import Stencil.Proofs.Scan.Replies

/-!
A text that goes on. What a scan recognises in a text it recognises in every longer text that begins with it
(`traced_extended`). The shorter text may end anywhere, in the middle of a marker, in a backslash, or in a span
that is closed only later. All that the longer text can change is what stands behind the last closed span.

The reason is that a search for a live marker looks at nothing behind the marker that it finds
(`Marker.cutLive?_exchange`). So the spans of the shorter text are the first spans of the longer one, and the
handler is asked for their contents in the same order and in the same states.
-/

namespace Stencil

namespace Text

theorem weave_append {pieces replies : List Text} (h : replies.length = pieces.length)
    (more moreReplies : List Text) :
    weave (pieces ++ more) (replies ++ moreReplies) = weave pieces replies ++ weave more moreReplies := by
  induction pieces generalizing replies with
  | nil => simp [List.length_eq_zero_iff.1 h, weave]
  | cons piece pieces ih =>
    cases replies with
    | nil => simp at h
    | cons reply replies =>
      have hrest := ih (Nat.succ.inj h)
      simp [weave, hrest]

end Text

namespace Marker

variable {marker : Marker} {carry behind : Bool}

/-- A live marker is found where it is, whatever stands behind it. -/
theorem cutLive?_exchange {text before after : Text}
    (h : marker.cutLive? carry behind text = some (before, after)) (other : Text) :
    marker.cutLive? carry behind (before ++ marker.text ++ other) = some (before, other) := by
  induction h using lead_induction with
  | live hcut hlive => exact cutLive?_of_live (Text.cut?_exchange marker.nonempty hcut other) hlive
  | @escaped _ _ first _ between _ hcut hescaped _ ih =>
    have hassoc : first ++ marker.text ++ between ++ marker.text ++ other =
        first ++ marker.text ++ (between ++ marker.text ++ other) := by simp
    rw [hassoc, cutLive?_of_escaped (Text.cut?_exchange marker.nonempty hcut _) hescaped, ih,
      Option.map_some]

theorem cutLive?_append {text before after : Text}
    (h : marker.cutLive? carry behind text = some (before, after)) (more : Text) :
    marker.cutLive? carry behind (text ++ more) = some (before, after ++ more) := by
  rw [cutLive?_eq_some h, List.append_assoc]
  exact cutLive?_exchange h (after ++ more)

end Marker

namespace Markers

theorem spans_segmentFrom_append (markers : Markers) (behind : Bool) (text more : Text) :
    (markers.segmentFrom behind text).spans <+: (markers.segmentFrom behind (text ++ more)).spans := by
  induction behind, text using markers.segment_induction with
  | bare behind text hopen =>
    rw [segmentFrom_of_cutLive?_eq_none hopen]
    exact List.nil_prefix
  | unclosed behind text lead inner hopen hclose =>
    rw [segmentFrom_of_unclosed hopen hclose]
    exact List.nil_prefix
  | closed behind text lead inner content after hopen hclose ih =>
    have hopen' := Marker.cutLive?_append hopen more
    have hclose' := Marker.cutLive?_append hclose more
    rw [segmentFrom_of_closed hopen hclose, segmentFrom_of_closed hopen' hclose']
    exact (List.prefix_cons_inj _).2 ih

end Markers

/-! ### The calls of a longer scan -/

namespace Handler

variable {σ ε : Type} {handler : Handler σ ε} {state middle last : σ}
  {contents more replies moreReplies : List Text}

theorem Answers.append (h : handler.Answers state contents replies middle)
    (hmore : handler.Answers middle more moreReplies last) :
    handler.Answers state (contents ++ more) (replies ++ moreReplies) last := by
  induction h with
  | nil => exact hmore
  | cons hcall _ ih => exact .cons hcall (ih hmore)

theorem Answers.failsAt_append {content : Text} {error : ε}
    (h : handler.Answers state contents replies middle)
    (hmore : handler.FailsAt middle more content error last) :
    handler.FailsAt state (contents ++ more) content error last := by
  obtain ⟨moreReplies, next, hanswers, hcall⟩ := hmore
  exact ⟨replies ++ moreReplies, next, h.append hanswers, hcall⟩

theorem Answers.length_eq (h : handler.Answers state contents replies last) :
    replies.length = contents.length := by
  induction h with
  | nil => rfl
  | cons _ _ ih => rw [List.length_cons, List.length_cons, ih]

end Handler

/-- What a scan by a handler comes to: how it ends, the state that the handler is left in, and what it was asked
for, the call that failed included. -/
structure Trace (σ ε : Type) where
  outcome : Except ε Text
  state : σ
  calls : List Text
  deriving DecidableEq

namespace Markers

variable {σ ε : Type} {handler : Handler σ ε} {markers : Markers} {state last : σ} {text : Text}

/-- The scan of a text by a handler that is in a state. -/
def traced (markers : Markers) (handler : Handler σ ε) (state : σ) (text : Text) : Trace σ ε :=
  let (outcome, state, calls) := (markers.fill handler.recorded text).run.run (state, [])
  ⟨outcome, state, calls⟩

theorem traced_of_answers {replies : List Text}
    (h : handler.Answers state (markers.contents (markers.segment text)) replies last) :
    markers.traced handler state text =
      ⟨.ok (markers.assemble (markers.segment text) replies), last,
        markers.contents (markers.segment text)⟩ := by
  rw [traced, fill_of_answers (h.recorded [])]
  rfl

theorem traced_of_failsAt {before after : List Text} {content : Text} {error : ε}
    (hcontents : markers.contents (markers.segment text) = before ++ content :: after)
    (h : handler.FailsAt state before content error last) :
    markers.traced handler state text = ⟨.error error, last, before ++ [content]⟩ := by
  rw [traced, fill_of_failsAt hcontents h.recorded]

theorem calls_isPrefix_contents (markers : Markers) (handler : Handler σ ε) (state : σ) (text : Text) :
    (markers.traced handler state text).calls <+: markers.contents (markers.segment text) := by
  rcases handler.answers_or_failsAt state (markers.contents (markers.segment text)) with
    ⟨replies, last, hanswers⟩ | ⟨before, content, after, error, last, hsplit, hfails⟩
  · rw [traced_of_answers hanswers]
  · rw [traced_of_failsAt hsplit hfails, hsplit]
    exact ⟨after, by simp⟩

theorem calls_eq_contents {filled : Text} (h : (markers.traced handler state text).outcome = .ok filled) :
    (markers.traced handler state text).calls = markers.contents (markers.segment text) := by
  rcases handler.answers_or_failsAt state (markers.contents (markers.segment text)) with
    ⟨replies, last, hanswers⟩ | ⟨before, content, after, error, last, hsplit, hfails⟩
  · rw [traced_of_answers hanswers]
  · rw [traced_of_failsAt hsplit hfails] at h
    cases h

/-- The text up to the last reply and with it. -/
def settled (markers : Markers) (segmentation : Segmentation) (replies : List Text) : Text :=
  Text.weave (markers.leads segmentation) replies

theorem assemble_eq_settled {segmentation : Segmentation} {replies : List Text}
    (h : replies.length = segmentation.spans.length) :
    markers.assemble segmentation replies =
      markers.settled segmentation replies ++ markers.ending segmentation := by
  have hlength : replies.length = (markers.leads segmentation).length := by simpa [leads] using h
  have hweave := Text.weave_append hlength [markers.ending segmentation] []
  rw [List.append_nil] at hweave
  rw [assemble, fragments, hweave, settled]
  simp [Text.weave]

theorem settled_isPrefix_assemble {first longer : Segmentation} (hspans : first.spans <+: longer.spans)
    {replies : List Text} (h : replies.length = first.spans.length) (more : List Text) :
    markers.settled first replies <+: markers.assemble longer (replies ++ more) := by
  obtain ⟨spans, hspans⟩ := hspans
  have hlength : replies.length = (markers.leads first).length := by simpa [leads] using h
  have hleads : markers.leads longer =
      markers.leads first ++ spans.map fun span => markers.opening.unescape span.lead := by
    rw [leads, leads, ← hspans, List.map_append]
  rw [assemble, fragments, hleads, List.append_assoc, Text.weave_append hlength]
  exact List.prefix_append _ _

/-- When a text is made longer, the calls for the shorter text come first, in their order, and if one of them
fails, then nothing changes at all. If none fails, then the text up to the last reply begins the result for the
longer text, should there be one. -/
theorem traced_extended (markers : Markers) (handler : Handler σ ε) (state : σ) (text more : Text) :
    (markers.traced handler state text).calls <+: (markers.traced handler state (text ++ more)).calls ∧
    (∀ error, (markers.traced handler state text).outcome = .error error →
      markers.traced handler state (text ++ more) = markers.traced handler state text) ∧
    ∀ filled, (markers.traced handler state text).outcome = .ok filled →
      ∃ replies, handler.Answers state (markers.traced handler state text).calls replies
          (markers.traced handler state text).state ∧
        filled = markers.settled (markers.segment text) replies ++ markers.ending (markers.segment text) ∧
        ∀ longer, (markers.traced handler state (text ++ more)).outcome = .ok longer →
          markers.settled (markers.segment text) replies <+: longer := by
  have hspans := markers.spans_segmentFrom_append false text more
  obtain ⟨later, hcontents⟩ : markers.contents (markers.segment text) <+:
      markers.contents (markers.segment (text ++ more)) := hspans.map _
  rcases handler.answers_or_failsAt state (markers.contents (markers.segment text)) with
    ⟨replies, middle, hanswers⟩ | ⟨before, content, after, error, last, hsplit, hfails⟩
  · have hlength : replies.length = (markers.segment text).spans.length := by
      simpa [contents] using hanswers.length_eq
    rw [traced_of_answers hanswers]
    -- What the shorter text asks for is answered, so only a later call can fail.
    rcases handler.answers_or_failsAt middle later with
      ⟨moreReplies, last, hmore⟩ | ⟨before, content, after, error, last, hsplit, hfails⟩
    · have hall := hanswers.append hmore
      rw [hcontents] at hall
      rw [traced_of_answers hall]
      refine ⟨⟨later, hcontents⟩, by simp, fun filled hfilled => ⟨replies, hanswers, ?_, ?_⟩⟩
      · rw [← Except.ok.inj hfilled, assemble_eq_settled hlength]
      · intro longer hlonger
        rw [← Except.ok.inj hlonger]
        exact settled_isPrefix_assemble hspans hlength moreReplies
    · have hlonger : markers.contents (markers.segment (text ++ more)) =
          markers.contents (markers.segment text) ++ before ++ content :: after := by
        rw [← hcontents, hsplit, List.append_assoc]
      rw [traced_of_failsAt hlonger (hanswers.failsAt_append hfails)]
      refine ⟨⟨before ++ [content], by simp⟩, by simp, fun filled hfilled => ⟨replies, hanswers, ?_, by simp⟩⟩
      rw [← Except.ok.inj hfilled, assemble_eq_settled hlength]
  · have hlonger : markers.contents (markers.segment (text ++ more)) =
        before ++ content :: (after ++ later) := by
      rw [← hcontents, hsplit]
      simp
    rw [traced_of_failsAt hsplit hfails, traced_of_failsAt hlonger hfails]
    exact ⟨List.prefix_rfl, fun _ _ => rfl, by simp⟩

end Markers

end Stencil
