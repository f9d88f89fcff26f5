import Stencil.Markers

/-!
A scan of a text is a segmentation of it: literal stretches and the contents of spans in turn, and
possibly the tail of a span that is never closed. Where the spans are is decided by the markers and the
text alone. What is put in their place comes later and from elsewhere, so a segmentation knows nothing
of it, and what is put there is never looked at again.

A marker behind a backslash is not live: it stands for itself and the search goes on behind it. The two
markers differ in one point. The backslash before an opening marker may be any character of the text,
also the last one of a marker that has just been read; the backslash before a closing marker has to be a
character of the content, behind the last marker found. The parameter `carry` of `cutLive?` is this
difference.

A segmentation keeps the stretches as they are written. `segment_written` puts them together again to
the text. What a stretch reads as, with the backslashes before its markers gone, is `Marker.unescape`.
-/

namespace Stencil

namespace Marker

def endsInEscape (marker : Marker) : Bool :=
  Text.endsInEscape marker.text

/-- Whether a marker with this text before it is not live: its neighbour on the left is a backslash.
With nothing before it, `behind` says whether that neighbour is one. -/
def isEscaped (behind : Bool) : Text → Bool
  | [] => behind
  | c :: before => Text.endsInEscape (c :: before)

/-- The text before the first live occurrence of the marker and the text behind it. The flag `behind`
says whether a backslash stands before the text, and `carry` whether one is taken to stand before what
follows an occurrence that is not live. -/
def cutLive? (marker : Marker) (carry behind : Bool) (text : Text) : Option (Text × Text) :=
  match _cut : Text.cut? marker.text text with
  | none => none
  | some (before, after) =>
    if isEscaped behind before then
      (marker.cutLive? carry carry after).map fun (more, rest) => (before ++ marker.text ++ more, rest)
    else
      some (before, after)
  termination_by text.length
  decreasing_by exact Text.length_lt_of_cut? marker.nonempty _cut

/-- The reading of a stretch that holds no live occurrence of the marker: each occurrence loses the
backslash before it. An occurrence at the very start has its backslash outside and loses nothing. -/
def unescape (marker : Marker) (text : Text) : Text :=
  match _cut : Text.cut? marker.text text with
  | none => text
  | some (before, after) => before.dropLast ++ marker.text ++ marker.unescape after
  termination_by text.length
  decreasing_by exact Text.length_lt_of_cut? marker.nonempty _cut

theorem cutLive?_eq (marker : Marker) (carry behind : Bool) (text : Text) :
    marker.cutLive? carry behind text =
      match Text.cut? marker.text text with
      | none => none
      | some (before, after) =>
        if isEscaped behind before then
          (marker.cutLive? carry carry after).map fun (more, rest) =>
            (before ++ marker.text ++ more, rest)
        else some (before, after) := by
  rw [cutLive?]
  split <;> simp [*]

theorem unescape_eq (marker : Marker) (text : Text) :
    marker.unescape text =
      match Text.cut? marker.text text with
      | none => text
      | some (before, after) => before.dropLast ++ marker.text ++ marker.unescape after := by
  rw [unescape]
  split <;> simp [*]

theorem cutLive?_eq_some {marker : Marker} {carry behind : Bool} {text before after : Text}
    (h : marker.cutLive? carry behind text = some (before, after)) :
    text = before ++ marker.text ++ after := by
  induction text using WellFounded.induction (measure List.length).wf
    generalizing behind before after with
  | _ text ih =>
    rw [cutLive?_eq] at h
    split at h
    · simp at h
    · next first rest hcut =>
      have htext := Text.cut?_eq_some hcut
      split at h
      · simp only [Option.map_eq_some_iff, Prod.mk.injEq, Prod.exists] at h
        obtain ⟨more, tail, hmore, rfl, rfl⟩ := h
        have := ih rest (Text.length_lt_of_cut? marker.nonempty hcut) hmore
        rw [htext, this]
        simp
      · simp only [Option.some.injEq, Prod.mk.injEq] at h
        obtain ⟨rfl, rfl⟩ := h
        exact htext

theorem length_lt_of_cutLive? {marker : Marker} {carry behind : Bool} {text before after : Text}
    (h : marker.cutLive? carry behind text = some (before, after)) : after.length < text.length := by
  have := congrArg List.length (cutLive?_eq_some h)
  have := List.length_pos_iff.2 marker.nonempty
  simp only [List.length_append] at *
  omega

end Marker

/-! ### The segmentation of a text -/

structure Span where
  lead : Text
  content : Text
  deriving DecidableEq, Repr

/-- The closed spans of a text in order, the literal stretch behind the last of them, and what follows
an opening marker that has no live closing marker behind it. -/
structure Segmentation where
  spans : List Span
  rest : Text
  unclosed : Option Text
  deriving DecidableEq, Repr

namespace Segmentation

def cons (span : Span) (segmentation : Segmentation) : Segmentation :=
  { segmentation with spans := span :: segmentation.spans }

@[simp] theorem spans_cons (span : Span) (segmentation : Segmentation) :
    (cons span segmentation).spans = span :: segmentation.spans := rfl

@[simp] theorem rest_cons (span : Span) (segmentation : Segmentation) :
    (cons span segmentation).rest = segmentation.rest := rfl

@[simp] theorem unclosed_cons (span : Span) (segmentation : Segmentation) :
    (cons span segmentation).unclosed = segmentation.unclosed := rfl

end Segmentation

namespace Markers

/-- The segmentation of a text before which a backslash stands if `behind` says so. -/
def segmentFrom (markers : Markers) (behind : Bool) (text : Text) : Segmentation :=
  match _opened : markers.opening.cutLive? markers.opening.endsInEscape behind text with
  | none => ⟨[], text, none⟩
  | some (lead, inner) =>
    match _closed : markers.closing.cutLive? false false inner with
    | none => ⟨[], lead, some inner⟩
    | some (content, after) =>
      .cons ⟨lead, content⟩ (markers.segmentFrom markers.closing.endsInEscape after)
  termination_by text.length
  decreasing_by
    exact Nat.lt_trans (Marker.length_lt_of_cutLive? _closed) (Marker.length_lt_of_cutLive? _opened)

def segment (markers : Markers) (text : Text) : Segmentation :=
  markers.segmentFrom false text

def writtenSpan (markers : Markers) (span : Span) : Text :=
  span.lead ++ markers.opening.text ++ span.content ++ markers.closing.text

/-- The tail of a text as it is written: an opening marker that is never closed stays in the text. -/
def unclosedTail (markers : Markers) : Option Text → Text
  | none => []
  | some tail => markers.opening.text ++ tail

/-- A segmentation as it is written. -/
def written (markers : Markers) (segmentation : Segmentation) : Text :=
  (segmentation.spans.map markers.writtenSpan).flatten ++ segmentation.rest ++
    markers.unclosedTail segmentation.unclosed

@[simp] theorem written_cons (markers : Markers) (span : Span) (segmentation : Segmentation) :
    markers.written (.cons span segmentation) =
      markers.writtenSpan span ++ markers.written segmentation := by
  simp [written]

theorem segmentFrom_eq (markers : Markers) (behind : Bool) (text : Text) :
    markers.segmentFrom behind text =
      match markers.opening.cutLive? markers.opening.endsInEscape behind text with
      | none => ⟨[], text, none⟩
      | some (lead, inner) =>
        match markers.closing.cutLive? false false inner with
        | none => ⟨[], lead, some inner⟩
        | some (content, after) =>
          .cons ⟨lead, content⟩ (markers.segmentFrom markers.closing.endsInEscape after) := by
  rw [segmentFrom]
  split
  · simp [*]
  · simp only [*]
    split <;> simp [*]

theorem segmentFrom_written (markers : Markers) (behind : Bool) (text : Text) :
    markers.written (markers.segmentFrom behind text) = text := by
  induction text using WellFounded.induction (measure List.length).wf generalizing behind with
  | _ text ih =>
    rw [segmentFrom_eq]
    split
    · simp [written, unclosedTail]
    · next lead inner h =>
      have htext := Marker.cutLive?_eq_some h
      split
      · simp [written, unclosedTail, htext]
      · next content after hc =>
        have hlt := Nat.lt_trans (Marker.length_lt_of_cutLive? hc) (Marker.length_lt_of_cutLive? h)
        rw [written_cons, ih after hlt, htext, Marker.cutLive?_eq_some hc]
        simp [writtenSpan]

/-- A segmentation loses nothing: written out again it is the text. -/
theorem segment_written (markers : Markers) (text : Text) :
    markers.written (markers.segment text) = text :=
  segmentFrom_written markers false text

/-! ### What stands in the place of the spans -/

/-- The contents of the spans as they read, in order. -/
def contents (markers : Markers) (segmentation : Segmentation) : List Text :=
  segmentation.spans.map fun span => markers.closing.unescape span.content

/-- The literal stretches before the spans as they read, in order. -/
def leads (markers : Markers) (segmentation : Segmentation) : List Text :=
  segmentation.spans.map fun span => markers.opening.unescape span.lead

/-- The literal text behind the last span as it reads, an unclosed span included. -/
def ending (markers : Markers) (segmentation : Segmentation) : Text :=
  markers.opening.unescape segmentation.rest ++ markers.unclosedTail segmentation.unclosed

/-- The literal texts of a segmentation as they read, one more than it has spans. -/
def fragments (markers : Markers) (segmentation : Segmentation) : List Text :=
  markers.leads segmentation ++ [markers.ending segmentation]

def assemble (markers : Markers) (segmentation : Segmentation) (replies : List Text) : Text :=
  Text.weave (markers.fragments segmentation) replies

end Markers

end Stencil
