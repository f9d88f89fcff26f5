import Stencil.Proofs.Scan.Spans

/-!
Filling a text with replies that are worked out from the contents alone. It needs no state and cannot fail,
so a scan with such replies is a function from texts to texts (`Markers.filled`).

In a text in which no backslash stands right before a marker every marker that is found is live and every
stretch reads as it is written. There a scan is a plain recursion over the text: find the opening marker,
find the closing one behind it, go on behind that (`filled_of_closed`).
-/

namespace Stencil

namespace Markers

/-- The text with each span replaced by a reply that is worked out from its content alone. -/
def filled (markers : Markers) (reply : Text → Text) (text : Text) : Text :=
  Id.run (markers.fill (fun content => pure (reply content)) text)

theorem filled_eq_assemble (markers : Markers) (reply : Text → Text) (text : Text) :
    markers.filled reply text =
      markers.assemble (markers.segment text) ((markers.contents (markers.segment text)).map reply) := by
  rw [filled, fill_eq_assemble]
  simp

/-- A content between the markers, as it is written if nothing in it has to be escaped. -/
def wrapped (markers : Markers) (content : Text) : Text :=
  markers.opening.text ++ content ++ markers.closing.text

def both (markers : Markers) : List Marker :=
  [markers.opening, markers.closing]

theorem opening_mem_both (markers : Markers) : markers.opening ∈ markers.both :=
  List.mem_cons_self

theorem closing_mem_both (markers : Markers) : markers.closing ∈ markers.both :=
  List.mem_cons_of_mem _ List.mem_cons_self

/-- Nowhere in the text does a backslash stand right before an occurrence of a marker. -/
def Unescaped (markers : Markers) (text : Text) : Prop :=
  ∀ marker ∈ markers.both, ¬ Text.escape :: marker.text <:+: text

instance (markers : Markers) (text : Text) : Decidable (markers.Unescaped text) :=
  inferInstanceAs (Decidable (∀ marker ∈ markers.both, ¬ Text.escape :: marker.text <:+: text))

namespace Unescaped

variable {markers : Markers} {text : Text}

theorem of_infix {part : Text} (h : markers.Unescaped text) (hpart : part <:+: text) :
    markers.Unescaped part :=
  fun marker hmarker hescaped => h marker hmarker (hescaped.trans hpart)

theorem not_isPrefix {front rest : Text} (h : markers.Unescaped (front ++ rest))
    (hfront : front.endsInEscape = true) {marker : Marker} (hmarker : marker ∈ markers.both) :
    ¬ marker.text <+: rest := by
  rintro ⟨after, rfl⟩
  have hlast : front.getLast? = some Text.escape := by simpa [Text.endsInEscape] using hfront
  have hsplit : front.dropLast ++ [Text.escape] = front :=
    List.dropLast_append_getLast? _ (by simp [hlast])
  refine h marker hmarker ⟨front.dropLast, after, ?_⟩
  rw [← List.singleton_append, ← List.append_assoc, hsplit, List.append_assoc]

theorem cutLive?_false_eq_cut? (h : markers.Unescaped text) {marker : Marker}
    (hmarker : marker ∈ markers.both) (carry : Bool) :
    marker.cutLive? carry false text = Text.cut? marker.text text := by
  cases hcut : Text.cut? marker.text text with
  | none => exact Marker.cutLive?_of_cut?_eq_none hcut
  | some cut =>
    obtain ⟨before, after⟩ := cut
    refine Marker.cutLive?_of_live hcut (Bool.eq_false_iff.2 fun hescaped => ?_)
    rw [Marker.isEscaped_false] at hescaped
    rw [Text.cut?_eq_some hcut, List.append_assoc] at h
    exact h.not_isPrefix hescaped hmarker (List.prefix_append _ _)

theorem after_span (h : markers.Unescaped text) {lead inner content after : Text}
    (hopen : Text.cut? markers.opening.text text = some (lead, inner))
    (hclose : Text.cut? markers.closing.text inner = some (content, after)) :
    markers.Unescaped after :=
  h.of_infix ⟨lead ++ markers.wrapped content, [], by
    rw [Text.cut?_eq_some hopen, Text.cut?_eq_some hclose]
    simp [wrapped]⟩

/-- Induction over a text from one span to the next. -/
@[elab_as_elim]
theorem span_induction {motive : ∀ text, markers.Unescaped text → Prop} (text : Text)
    (h : markers.Unescaped text)
    (bare : ∀ text (h : markers.Unescaped text), Text.cut? markers.opening.text text = none → motive text h)
    (unclosed : ∀ text (h : markers.Unescaped text) lead inner,
      Text.cut? markers.opening.text text = some (lead, inner) →
      Text.cut? markers.closing.text inner = none → motive text h)
    (closed : ∀ text (h : markers.Unescaped text) lead inner content after
      (hopen : Text.cut? markers.opening.text text = some (lead, inner))
      (hclose : Text.cut? markers.closing.text inner = some (content, after)),
      motive after (h.after_span hopen hclose) → motive text h) :
    motive text h := by
  induction text using WellFounded.induction (measure List.length).wf with
  | _ text ih =>
    cases hopen : Text.cut? markers.opening.text text with
    | none => exact bare text h hopen
    | some opened =>
      obtain ⟨lead, inner⟩ := opened
      cases hclose : Text.cut? markers.closing.text inner with
      | none => exact unclosed text h lead inner hopen hclose
      | some closing =>
        obtain ⟨content, after⟩ := closing
        have hlt := Nat.lt_trans (Text.length_lt_of_cut? markers.closing.nonempty hclose)
          (Text.length_lt_of_cut? markers.opening.nonempty hopen)
        exact closed text h lead inner content after hopen hclose (ih after hlt _)

end Unescaped

section

variable {markers : Markers} {text lead inner content after : Text} (reply : Text → Text)

theorem filled_of_cut?_eq_none (hopen : Text.cut? markers.opening.text text = none) :
    markers.filled reply text = text := by
  rw [filled_eq_assemble, segment,
    segmentFrom_of_cutLive?_eq_none (Marker.cutLive?_of_cut?_eq_none hopen)]
  simp [contents, assemble, fragments, leads, ending, unclosedTail, Text.weave,
    Marker.unescape_of_cut?_eq_none hopen]

theorem filled_of_unclosed (h : markers.Unescaped text)
    (hopen : Text.cut? markers.opening.text text = some (lead, inner))
    (hclose : Text.cut? markers.closing.text inner = none) :
    markers.filled reply text = text := by
  have hlead := h.cutLive?_false_eq_cut? markers.opening_mem_both markers.opening.endsInEscape
  rw [filled_eq_assemble, segment, segmentFrom_of_unclosed (hlead.trans hopen)
    (Marker.cutLive?_of_cut?_eq_none hclose)]
  simp [contents, assemble, fragments, leads, ending, unclosedTail, Text.weave,
    Marker.unescape_before hopen, Text.cut?_eq_some hopen]

/-- A closed span becomes the reply to its content, and what follows it is filled as a text of its own. -/
theorem filled_of_closed (h : markers.Unescaped text)
    (hopen : Text.cut? markers.opening.text text = some (lead, inner))
    (hclose : Text.cut? markers.closing.text inner = some (content, after)) :
    markers.filled reply text = lead ++ reply content ++ markers.filled reply after := by
  have hinner : markers.Unescaped inner :=
    h.of_infix ⟨lead ++ markers.opening.text, [], by simp [Text.cut?_eq_some hopen]⟩
  have hafter := h.after_span hopen hclose
  have hbehind : markers.closing.endsInEscape = true → ¬ markers.opening.text <+: after := by
    intro hends
    have hfront : Text.endsInEscape (content ++ markers.closing.text) = true := by
      rw [Marker.endsInEscape_append_text, hends]
    rw [Text.cut?_eq_some hclose] at hinner
    exact hinner.not_isPrefix hfront markers.opening_mem_both
  have hlead := h.cutLive?_false_eq_cut? markers.opening_mem_both markers.opening.endsInEscape
  have hcontent := hinner.cutLive?_false_eq_cut? markers.closing_mem_both false
  rw [filled_eq_assemble, segment, segmentFrom_of_closed (hlead.trans hopen) (hcontent.trans hclose),
    segmentFrom_eq_segment hbehind, contents_cons, List.map_cons, assemble_cons,
    filled_eq_assemble, Marker.unescape_before hopen, Marker.unescape_before hclose]

end

end Markers

end Stencil
