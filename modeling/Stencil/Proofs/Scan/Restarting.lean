import Stencil.Proofs.Scan.Joining

/-!
What follows a closed span. A text that is one span, from its opening marker to its closing one, is one call, and
what follows is scanned as a text of its own (`traced_span_append`). The closing marker has been read as a whole,
and no part of it can be part of anything else.

There is one way in which it is still seen. The look at the neighbour on the left of an opening marker may fall on
any character of the text, and so on the last one of a closing marker that has just been read. A closing marker
that ends in a backslash therefore takes away the meaning of an opening marker right behind it, which is then a
literal text (`traced_span_append_opening`). The look before a closing marker never goes that far, since it stays
behind the opening marker.
-/

namespace Stencil

section

variable {σ ε : Type}

/-- One call as a scan: its reply is the result. -/
def Handler.asked (handler : Handler σ ε) (state : σ) (content : Text) : Trace σ ε :=
  ⟨(handler.call state content).1, (handler.call state content).2, [content]⟩

/-- A scan that puts down a literal text first. -/
def Trace.withLead (lead : Text) (trace : Trace σ ε) : Trace σ ε :=
  { trace with outcome := trace.outcome.map (lead ++ ·) }

@[simp] theorem Trace.withLead_nil (trace : Trace σ ε) : trace.withLead [] = trace := by
  obtain ⟨outcome, state, calls⟩ := trace
  cases outcome <;> rfl

namespace Markers

variable {markers : Markers} {content span text : Text}

/-- The text begins with the opening marker, and the first live closing marker behind that ends the text. The
content is what is read between the two. -/
def IsSpan (markers : Markers) (content text : Text) : Prop :=
  markers.opening.text <+: text ∧
    markers.closing.closeFrom? text markers.opening.length [] =
      some (content, text.length - markers.closing.length)

instance (markers : Markers) (content text : Text) : Decidable (markers.IsSpan content text) :=
  inferInstanceAs (Decidable (_ ∧ _))

/-- Behind the opening marker of a span there is its content, as it is written, and the closing marker, and
nothing else. -/
theorem IsSpan.cutLive? (h : markers.IsSpan content span) :
    ∃ inner written, span = markers.opening.text ++ inner ∧
      markers.closing.cutLive? false false inner = some (written, []) ∧
      markers.closing.unescape written = content := by
  obtain ⟨⟨inner, rfl⟩, hclose⟩ := h
  have hstop := (Marker.closeFrom?_bounds hclose).2
  rw [Marker.length, Marker.closeFrom?_at, Option.map_eq_some_iff] at hclose
  obtain ⟨⟨written, after⟩, hlive, hread⟩ := hclose
  obtain ⟨hcontent, hplace⟩ := Prod.mk.inj hread
  -- The closing marker ends the text, so there is no room behind it.
  have hlength := congrArg List.length (Marker.cutLive?_eq_some hlive)
  simp only [List.length_append, Marker.length] at hlength hplace hstop
  have hafter : after = [] := List.length_eq_zero_iff.1 (by omega)
  rw [hafter] at hlive
  exact ⟨inner, written, rfl, hlive, by simpa using hcontent⟩

/-- Behind a span the segmentation goes on as that of a text with the last character of the closing marker before
it. -/
theorem IsSpan.segment_append (h : markers.IsSpan content span) (text : Text) :
    ∃ written, markers.closing.unescape written = content ∧
      markers.segment (span ++ text) =
        .cons ⟨[], written⟩ (markers.segmentFrom markers.closing.endsInEscape text) := by
  obtain ⟨inner, written, rfl, hlive, hcontent⟩ := h.cutLive?
  refine ⟨written, hcontent, ?_⟩
  have hopen : markers.opening.cutLive? markers.opening.endsInEscape false
      (markers.opening.text ++ (inner ++ text)) = some ([], inner ++ text) :=
    Marker.cutLive?_of_live (Text.cut?_self_append markers.opening.nonempty _) rfl
  have hclose := Marker.cutLive?_append hlive text
  rw [List.nil_append] at hclose
  rw [List.append_assoc, segment, segmentFrom_of_closed hopen hclose]

/-- A text that has one content before those of another text, and a literal text behind it before those of the
other text, is scanned by one call more. -/
theorem traced_of_contents_cons {whole lead : Text}
    (hcontents : markers.contents (markers.segment whole) =
      content :: markers.contents (markers.segment text))
    (hassemble : ∀ reply replies, markers.assemble (markers.segment whole) (reply :: replies) =
      reply ++ (lead ++ markers.assemble (markers.segment text) replies))
    (handler : Handler σ ε) (state : σ) :
    markers.traced handler state whole =
      (handler.asked state content).andThen fun middle =>
        (markers.traced handler middle text).withLead lead := by
  cases hcall : handler.call state content with | mk answer middle
  rw [Handler.asked, hcall]
  cases answer with
  | error error =>
    have hfails : handler.FailsAt state [] content error middle := ⟨[], state, .nil, hcall⟩
    rw [traced_of_failsAt hcontents hfails]
    rfl
  | ok reply =>
    rcases handler.answers_or_failsAt middle (markers.contents (markers.segment text)) with
      ⟨replies, last, hanswers⟩ | ⟨before, later, after, error, last, hsplit, hfails⟩
    · have hall := hanswers.cons hcall
      rw [← hcontents] at hall
      rw [traced_of_answers hall, hassemble, hcontents, Trace.andThen, traced_of_answers hanswers]
      rfl
    · have hall : markers.contents (markers.segment whole) = content :: before ++ later :: after := by
        rw [hcontents, hsplit, List.cons_append]
      have hone : handler.Answers state [content] [reply] middle := .cons hcall .nil
      rw [traced_of_failsAt hall (hone.failsAt_append hfails), Trace.andThen,
        traced_of_failsAt hsplit hfails]
      rfl

/-- A span is one call, and what follows it is scanned as a text of its own, unless the closing marker ends in a
backslash and the opening marker comes right behind it. -/
theorem traced_span_append (hspan : markers.IsSpan content span)
    (hlive : markers.closing.endsInEscape = true → ¬ markers.opening.text <+: text)
    (handler : Handler σ ε) (state : σ) :
    markers.traced handler state (span ++ text) =
      (handler.asked state content).andThen fun middle => markers.traced handler middle text := by
  obtain ⟨written, hcontent, hsegment⟩ := hspan.segment_append text
  rw [segmentFrom_eq_segment hlive] at hsegment
  have hcontents : markers.contents (markers.segment (span ++ text)) =
      content :: markers.contents (markers.segment text) := by
    rw [hsegment, contents_cons, hcontent]
  have hassemble (reply : Text) (replies : List Text) :
      markers.assemble (markers.segment (span ++ text)) (reply :: replies) =
        reply ++ ([] ++ markers.assemble (markers.segment text) replies) := by
    rw [hsegment, assemble_cons, Marker.unescape_nil]
    rfl
  simpa only [Trace.withLead_nil] using traced_of_contents_cons hcontents hassemble handler state

/-- An opening marker right behind a closing one that ends in a backslash is put down as it is, and what follows is
scanned as a text of its own, unless the same happens there. -/
theorem traced_span_append_opening (hspan : markers.IsSpan content span)
    (hclosing : markers.closing.endsInEscape = true)
    (hlive : markers.opening.endsInEscape = true → ¬ markers.opening.text <+: text)
    (handler : Handler σ ε) (state : σ) :
    markers.traced handler state (span ++ (markers.opening.text ++ text)) =
      (handler.asked state content).andThen fun middle =>
        (markers.traced handler middle text).withLead markers.opening.text := by
  obtain ⟨written, hcontent, hsegment⟩ := hspan.segment_append (markers.opening.text ++ text)
  have hcut := Text.cut?_self_append markers.opening.nonempty text
  rw [hclosing, segmentFrom_of_escaped hcut rfl, segmentFrom_eq_segment hlive] at hsegment
  refine traced_of_contents_cons ?_ (fun reply replies => ?_) handler state
  · rw [hsegment, contents_cons, contents_extend, hcontent]
  · rw [hsegment, assemble_cons, assemble_extend hcut, Marker.unescape_nil]
    rfl

def barbs : Markers where
  opening := ⟨['<', '\\'], List.cons_ne_nil _ _⟩
  closing := ⟨['>', '\\'], List.cons_ne_nil _ _⟩

/-- Behind a span with a closing marker in its content that is not live, a text that does not begin with the opening
marker. -/
theorem traced_span_append_barbs :
    barbs.IsSpan "a>\\b".toList "<\\a\\>\\b>\\".toList ∧
    (barbs.closing.endsInEscape = true → ¬ barbs.opening.text <+: "c<\\d>\\".toList) ∧
    barbs.traced numbered 1 "c<\\d>\\".toList = ⟨.ok "c#d".toList, 2, ["d".toList]⟩ ∧
    barbs.traced numbered 1 ("<\\a\\>\\b>\\".toList ++ "c<\\d>\\".toList) =
      ⟨.ok "#a>\\bc##d".toList, 3, ["a>\\b".toList, "d".toList]⟩ := by
  have hspan : barbs.IsSpan "a>\\b".toList "<\\a\\>\\b>\\".toList := by decide +kernel
  have hlive : barbs.closing.endsInEscape = true → ¬ barbs.opening.text <+: "c<\\d>\\".toList := by
    decide
  refine ⟨hspan, hlive, by decide +kernel, ?_⟩
  rw [traced_span_append hspan hlive]
  decide +kernel

/-- Right behind the first of two spans the opening marker of the second is not live, and its content is not asked
for. -/
theorem traced_span_append_ne_barbs :
    barbs.IsSpan "a".toList "<\\a>\\".toList ∧
    barbs.traced numbered 1 ("<\\a>\\".toList ++ "<\\b>\\".toList) =
      ⟨.ok "#a<\\b>\\".toList, 2, ["a".toList]⟩ ∧
    ((numbered.asked 1 "a".toList).andThen fun middle => barbs.traced numbered middle "<\\b>\\".toList) =
      ⟨.ok "#a##b".toList, 3, ["a".toList, "b".toList]⟩ := by
  decide +kernel

end Markers

end

end Stencil
