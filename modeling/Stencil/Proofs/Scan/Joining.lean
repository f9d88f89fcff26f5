import Stencil.Proofs.Scan.Extending

/-!
One text behind another. A scan of the two is a scan of the first and then one of the second, in the state that
the first one leaves, if three things are excluded that could tie them together (`traced_append`). A span of the
first text that is never closed there could be closed in the second. An opening marker could begin in the first
text and end in the second. And a backslash at the end of the first text would take away the meaning of an
opening marker at the start of the second.

The closing marker is under no such condition. It is looked for in spans only, and no span is open between the
two texts.
-/

namespace Stencil

namespace Marker

variable {marker : Marker} {behind : Bool}

theorem isEscaped_append (behind : Bool) (front back : Text) :
    isEscaped behind (front ++ back) = isEscaped (isEscaped behind front) back := by
  cases back with
  | nil => simp [isEscaped]
  | cons c back =>
    cases front with
    | nil => rfl
    | cons d front =>
      show Text.endsInEscape ((d :: front) ++ (c :: back)) = Text.endsInEscape (c :: back)
      rw [Text.endsInEscape_append, if_neg (List.cons_ne_nil c back)]

theorem isEscaped_append_text (marker : Marker) (behind : Bool) (front : Text) :
    isEscaped behind (front ++ marker.text) = marker.endsInEscape := by
  rw [isEscaped_append, ← endsInEscape_append_text marker []]
  cases hmarker : marker.text with
  | nil => exact absurd hmarker marker.nonempty
  | cons c text => rfl

theorem isEscaped_of_cutLive? {text lead rest : Text}
    (h : marker.cutLive? marker.endsInEscape behind text = some (lead, rest)) :
    isEscaped behind lead = false := by
  induction h using lead_induction with
  | live _ hlive => exact hlive
  | escaped _ _ _ ih => rw [isEscaped_append, isEscaped_append_text, ih]

/-- Behind a text without a live marker, the search for one comes out where it does in what follows alone. -/
theorem cutLive?_append_of_none {text : Text}
    (hnone : marker.cutLive? marker.endsInEscape behind text = none)
    (hend : isEscaped behind text = false) (hopen : Text.Unbegun marker.text text) (more : Text) :
    marker.cutLive? marker.endsInEscape behind (text ++ more) =
      (marker.cutLive? marker.endsInEscape false more).map fun (before, after) =>
        (text ++ before, after) := by
  induction text using Text.cut_induction marker.nonempty generalizing behind with
  | last text hcut =>
    have hskip := hopen.cut?_append marker.nonempty (Text.cut?_eq_none_iff.1 hcut) more
    cases hmore : Text.cut? marker.text more with
    | none =>
      rw [hmore, Option.map_none] at hskip
      rw [cutLive?_of_cut?_eq_none hskip, cutLive?_of_cut?_eq_none hmore, Option.map_none]
    | some cut =>
      obtain ⟨before, after⟩ := cut
      rw [hmore, Option.map_some] at hskip
      have hsame : isEscaped behind (text ++ before) = isEscaped false before := by
        rw [isEscaped_append, hend]
      cases hescaped : isEscaped false before with
      | false =>
        rw [cutLive?_of_live hskip (hsame.trans hescaped), cutLive?_of_live hmore hescaped,
          Option.map_some]
      | true =>
        rw [cutLive?_of_escaped hskip (hsame.trans hescaped), cutLive?_of_escaped hmore hescaped,
          Option.map_map]
        refine congrArg (Option.map · _) (funext fun (lead, rest) => ?_)
        simp
  | next text before after hcut ih =>
    have hlonger := Text.cut?_append marker.nonempty hcut more
    have htext := Text.cut?_eq_some hcut
    obtain ⟨hescaped, hnone⟩ := (cutLive?_eq_none_iff_of_cut? hcut).1 hnone
    rw [htext, isEscaped_append, isEscaped_append_text] at hend
    have hafter : Text.Unbegun marker.text after :=
      hopen.of_suffix ⟨before ++ marker.text, htext.symm⟩
    rw [cutLive?_of_escaped hlonger hescaped, ih hnone hend hafter, Option.map_map]
    refine congrArg (Option.map · _) (funext fun (lead, rest) => ?_)
    simp [htext]

theorem unescape_append_of_unbegun {text more : Text} (hopen : Text.Unbegun marker.text text)
    (hmore : ¬ marker.text <+: more) :
    marker.unescape (text ++ more) = marker.unescape text ++ marker.unescape more := by
  induction text using Text.cut_induction marker.nonempty with
  | last text hcut =>
    have hskip := hopen.cut?_append marker.nonempty (Text.cut?_eq_none_iff.1 hcut) more
    rw [unescape_of_cut?_eq_none hcut]
    cases hcutMore : Text.cut? marker.text more with
    | none =>
      rw [hcutMore, Option.map_none] at hskip
      rw [unescape_of_cut?_eq_none hskip, unescape_of_cut?_eq_none hcutMore]
    | some cut =>
      obtain ⟨before, after⟩ := cut
      rw [hcutMore, Option.map_some] at hskip
      -- The occurrence has its backslash in what follows, so none of the text is taken away.
      have hbefore : before ≠ [] := by
        rintro rfl
        exact hmore ⟨after, (Text.cut?_eq_some hcutMore).symm⟩
      rw [unescape_eq, hskip, unescape_eq marker more, hcutMore]
      simp only
      rw [List.dropLast_append_of_ne_nil hbefore]
      simp
  | next text before after hcut ih =>
    have hlonger := Text.cut?_append marker.nonempty hcut more
    have htext := Text.cut?_eq_some hcut
    have hafter : Text.Unbegun marker.text after :=
      hopen.of_suffix ⟨before ++ marker.text, htext.symm⟩
    rw [unescape_eq, hlonger, unescape_eq marker text, hcut]
    simp only
    rw [ih hafter, List.append_assoc, List.append_assoc, List.append_assoc]

end Marker

/-! ### The segmentation of two texts -/

namespace Segmentation

/-- The second segmentation behind the first, which leaves no span open. -/
def followedBy (first second : Segmentation) : Segmentation :=
  first.spans.foldr cons (second.extend first.rest)

@[simp] theorem followedBy_bare (rest : Text) (unclosed : Option Text) (second : Segmentation) :
    followedBy ⟨[], rest, unclosed⟩ second = second.extend rest := rfl

@[simp] theorem followedBy_cons (span : Span) (first second : Segmentation) :
    followedBy (cons span first) second = cons span (first.followedBy second) := rfl

end Segmentation

namespace Markers

variable {markers : Markers} {behind : Bool} {text : Text}

/-- The first stretch of a segmentation does not begin with the opening marker, which would be live there. -/
theorem not_isPrefix_head_segment (markers : Markers) (text : Text) :
    ¬ markers.opening.text <+: (markers.segment text).head := by
  rw [segment]
  intro hbegins
  have hlead {after : Text} (hafter : markers.opening.text ++ after = text) :
      markers.opening.cutLive? markers.opening.endsInEscape false text = some ([], after) :=
    Marker.cutLive?_of_live (hafter ▸ Text.cut?_self_append markers.opening.nonempty after) rfl
  cases hopen : markers.opening.cutLive? markers.opening.endsInEscape false text with
  | none =>
    rw [segmentFrom_of_cutLive?_eq_none hopen] at hbegins
    obtain ⟨after, hafter⟩ := hbegins
    rw [hlead hafter] at hopen
    exact absurd hopen (by simp)
  | some opened =>
    obtain ⟨lead, inner⟩ := opened
    have hhead : (markers.segmentFrom false text).head = lead := by
      cases hclose : markers.closing.cutLive? false false inner with
      | none => rw [segmentFrom_of_unclosed hopen hclose]; rfl
      | some closed => rw [segmentFrom_of_closed hopen hclose]; rfl
    rw [hhead] at hbegins
    have htext := Marker.cutLive?_eq_some hopen
    obtain ⟨after, hafter⟩ := hbegins
    rw [← hafter, List.append_assoc, List.append_assoc] at htext
    rw [hlead htext.symm, Option.some.injEq, Prod.mk.injEq] at hopen
    rw [← hopen.1] at hafter
    exact markers.opening.nonempty (List.append_eq_nil_iff.1 hafter).1

/-- The segmentation of a text goes on behind it as that of what follows alone, if no span is left open, no
opening marker is begun and no backslash stands at the end. -/
theorem segmentFrom_append (hclosed : (markers.segmentFrom behind text).unclosed = none)
    (hend : Marker.isEscaped behind text = false)
    (hopen : Text.Unbegun markers.opening.text (markers.segmentFrom behind text).rest) (more : Text) :
    markers.segmentFrom behind (text ++ more) =
      (markers.segmentFrom behind text).followedBy (markers.segment more) := by
  induction behind, text using markers.segment_induction with
  | bare behind text hnone =>
    rw [segmentFrom_of_cutLive?_eq_none hnone] at hopen ⊢
    exact segmentFrom_extend (Marker.cutLive?_append_of_none hnone hend hopen more)
  | unclosed behind text lead inner hlead hclose =>
    rw [segmentFrom_of_unclosed hlead hclose] at hclosed
    exact absurd hclosed (by simp)
  | closed behind text lead inner content after hlead hclose ih =>
    have hlead' := Marker.cutLive?_append hlead more
    have hclose' := Marker.cutLive?_append hclose more
    have htext : text = lead ++ markers.opening.text ++ content ++ markers.closing.text ++ after := by
      rw [Marker.cutLive?_eq_some hlead, Marker.cutLive?_eq_some hclose]
      simp
    rw [htext, Marker.isEscaped_append, Marker.isEscaped_append_text] at hend
    rw [segmentFrom_of_closed hlead hclose] at hclosed hopen ⊢
    rw [segmentFrom_of_closed hlead' hclose', ih hclosed hend hopen, Segmentation.followedBy_cons]

theorem rest_segmentFrom_isSuffix (markers : Markers) (behind : Bool) (text : Text)
    (hclosed : (markers.segmentFrom behind text).unclosed = none) :
    (markers.segmentFrom behind text).rest <:+ text := by
  have hwritten := markers.segmentFrom_written behind text
  rw [written, hclosed, unclosedTail, List.append_nil] at hwritten
  exact ⟨_, hwritten⟩

theorem contents_followedBy (first second : Segmentation) :
    markers.contents (first.followedBy second) = markers.contents first ++ markers.contents second := by
  obtain ⟨spans, rest, unclosed⟩ := first
  induction spans with
  | nil => exact contents_extend rest second
  | cons span spans ih =>
    show markers.contents (.cons span (Segmentation.followedBy ⟨spans, rest, unclosed⟩ second)) =
      markers.contents (.cons span ⟨spans, rest, unclosed⟩) ++ markers.contents second
    rw [contents_cons, contents_cons, ih, List.cons_append]

theorem assemble_followedBy {first second : Segmentation} (hclosed : first.unclosed = none)
    (hopen : Text.Unbegun markers.opening.text first.rest)
    (hhead : ¬ markers.opening.text <+: second.head) {replies : List Text}
    (h : replies.length = first.spans.length) (more : List Text) :
    markers.assemble (first.followedBy second) (replies ++ more) =
      markers.assemble first replies ++ markers.assemble second more := by
  obtain ⟨spans, rest, unclosed⟩ := first
  induction spans generalizing replies with
  | nil =>
    obtain rfl : replies = [] := List.length_eq_zero_iff.1 h
    obtain rfl : unclosed = none := hclosed
    rw [Segmentation.followedBy_bare, List.nil_append,
      assemble_extend_of_unescape (Marker.unescape_append_of_unbegun hopen hhead)]
    simp [assemble, fragments, leads, ending, unclosedTail, Text.weave]
  | cons span spans ih =>
    cases replies with
    | nil => simp at h
    | cons reply replies =>
      show markers.assemble (.cons span (Segmentation.followedBy ⟨spans, rest, unclosed⟩ second))
          (reply :: (replies ++ more)) =
        markers.assemble (.cons span ⟨spans, rest, unclosed⟩) (reply :: replies) ++
          markers.assemble second more
      rw [assemble_cons, assemble_cons, ih hclosed hopen (Nat.succ.inj h), List.append_assoc,
        List.append_assoc, List.append_assoc]

end Markers

/-! ### The scan of two texts -/

section

variable {σ ε : Type}

/-- A scan that ends well and then another one, which finds the handler in the state that the first one leaves.
Their calls and their results are put one behind the other, and the first error is the error of both. -/
def Trace.andThen (first : Trace σ ε) (second : σ → Trace σ ε) : Trace σ ε :=
  match first.outcome with
  | .error _ => first
  | .ok filled =>
    let next := second first.state
    ⟨next.outcome.map (filled ++ ·), next.state, first.calls ++ next.calls⟩

namespace Markers

variable {markers : Markers} {text : Text}

/-- Two texts are scanned one after the other. -/
theorem traced_append (hend : text.endsInEscape = false) (hopen : Text.Unbegun markers.opening.text text)
    (hclosed : (markers.segment text).unclosed = none) (handler : Handler σ ε) (state : σ) (more : Text) :
    markers.traced handler state (text ++ more) =
      (markers.traced handler state text).andThen fun middle => markers.traced handler middle more := by
  have hrest := hopen.of_suffix (markers.rest_segmentFrom_isSuffix false text hclosed)
  have hsegment : markers.segment (text ++ more) =
      (markers.segment text).followedBy (markers.segment more) :=
    segmentFrom_append hclosed (by rw [Marker.isEscaped_false, hend]) hrest more
  have hcontents : markers.contents (markers.segment (text ++ more)) =
      markers.contents (markers.segment text) ++ markers.contents (markers.segment more) := by
    rw [hsegment, contents_followedBy]
  rcases handler.answers_or_failsAt state (markers.contents (markers.segment text)) with
    ⟨replies, middle, hanswers⟩ | ⟨before, content, after, error, last, hsplit, hfails⟩
  · have hlength : replies.length = (markers.segment text).spans.length := by
      simpa [contents] using hanswers.length_eq
    rw [traced_of_answers hanswers]
    rcases handler.answers_or_failsAt middle (markers.contents (markers.segment more)) with
      ⟨moreReplies, last, hmore⟩ | ⟨before, content, after, error, last, hsplit, hfails⟩
    · have hall := hanswers.append hmore
      rw [← hcontents] at hall
      rw [traced_of_answers hall, Trace.andThen, traced_of_answers hmore, hcontents, hsegment,
        assemble_followedBy hclosed hrest (not_isPrefix_head_segment markers more) hlength]
      rfl
    · have hall : markers.contents (markers.segment (text ++ more)) =
          markers.contents (markers.segment text) ++ before ++ content :: after := by
        rw [hcontents, hsplit, List.append_assoc]
      rw [traced_of_failsAt hall (hanswers.failsAt_append hfails), Trace.andThen,
        traced_of_failsAt hsplit hfails, List.append_assoc]
      rfl
  · have hall : markers.contents (markers.segment (text ++ more)) =
        before ++ content :: (after ++ markers.contents (markers.segment more)) := by
      rw [hcontents, hsplit]
      simp
    rw [traced_of_failsAt hall hfails, traced_of_failsAt hsplit hfails]
    rfl

def tags : Markers where
  opening := ⟨['<', '%'], List.cons_ne_nil _ _⟩
  closing := ⟨['%'], List.cons_ne_nil _ _⟩

def numbered : Handler Nat Unit := fun content => do
  if content = [] then
    throw ()
  let count ← getModify (· + 1)
  return List.replicate count '#' ++ content

/-- Behind a text with an opening marker that is not live and a closing one that is not, a text that is filled
and one in which the first content is refused. -/
theorem traced_append_tags :
    Text.endsInEscape "\\<%a<%b\\%c%".toList = false ∧
    Text.Unbegun tags.opening.text "\\<%a<%b\\%c%".toList ∧
    (tags.segment "\\<%a<%b\\%c%".toList).unclosed = none ∧
    tags.traced numbered 1 ("\\<%a<%b\\%c%".toList ++ "%<%d%<%".toList) =
      ⟨.ok "<%a#b%c%##d<%".toList, 3, ["b%c".toList, "d".toList]⟩ ∧
    tags.traced numbered 1 ("\\<%a<%b\\%c%".toList ++ "<%%<%d%".toList) =
      ⟨.error (), 2, ["b%c".toList, []]⟩ := by
  have hend : Text.endsInEscape "\\<%a<%b\\%c%".toList = false := by decide
  have hopen : Text.Unbegun tags.opening.text "\\<%a<%b\\%c%".toList := by decide +kernel
  have hclosed : (tags.segment "\\<%a<%b\\%c%".toList).unclosed = none := by decide +kernel
  refine ⟨hend, hopen, hclosed, ?_, ?_⟩
  · rw [traced_append hend hopen hclosed]
    decide +kernel
  · rw [traced_append hend hopen hclosed]
    decide +kernel

end Markers

end

end Stencil
