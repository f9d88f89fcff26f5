import Stencil.Proofs.Scan.Rounds

/-!
What a scan may cost. Every call is paid for by characters of the text: the two markers around the content and the
content itself, which is not longer as it reads than as it is written. These characters are paid once. What they
stand for in the result is the reply, and all the rest of the result are characters that were not paid with
(`fill_accounted`). So the replies are the only way in which a result becomes longer than the text.

The account is kept on the segmentation, where each character of the text stands at one place
(`segment_written`).
-/

namespace Stencil

namespace Text

theorem length_weave {pieces replies : List Text} (h : replies.length ≤ pieces.length) :
    (weave pieces replies).length = pieces.flatten.length + replies.flatten.length := by
  induction pieces generalizing replies with
  | nil =>
    obtain rfl := List.length_eq_zero_iff.1 (Nat.le_zero.1 h)
    rfl
  | cons piece pieces ih =>
    cases replies with
    | nil => simp [weave, ih]
    | cons reply replies =>
      have hrest := ih (Nat.le_of_succ_le_succ h)
      simp only [weave, List.length_append, List.flatten_cons, hrest]
      omega

end Text

namespace Markers

variable {markers : Markers}

/-- What calls for these contents cost: the contents, and two markers for each. -/
def cost (markers : Markers) (contents : List Text) : Nat :=
  contents.length * (markers.opening.length + markers.closing.length) + contents.flatten.length

theorem cost_append (contents more : List Text) :
    markers.cost (contents ++ more) = markers.cost contents + markers.cost more := by
  simp only [cost, List.length_append, List.flatten_append, Nat.add_mul]
  omega

theorem cost_cons (content : Text) (contents : List Text) :
    markers.cost (content :: contents) =
      markers.opening.length + content.length + markers.closing.length + markers.cost contents := by
  simp only [cost, List.length_cons, List.length_append, List.flatten_cons, Nat.add_mul]
  omega

theorem cost_le_of_isPrefix {contents more : List Text} (h : contents <+: more) :
    markers.cost contents ≤ markers.cost more := by
  obtain ⟨rest, rfl⟩ := h
  rw [cost_append]
  exact Nat.le_add_right _ _

/-! ### The account of a segmentation -/

theorem length_fragments_add_cost_le (markers : Markers) (segmentation : Segmentation) :
    (markers.fragments segmentation).flatten.length + markers.cost (markers.contents segmentation) ≤
      (markers.written segmentation).length := by
  obtain ⟨spans, rest, unclosed⟩ := segmentation
  induction spans with
  | nil =>
    have hrest := markers.opening.length_unescape_le rest
    simp only [fragments, leads, ending, contents, cost, written, List.map_nil, List.nil_append,
      List.flatten_cons, List.length_append, List.flatten_nil, List.length_nil]
    omega
  | cons span spans ih =>
    have hlead := markers.opening.length_unescape_le span.lead
    have hcontent := markers.closing.length_unescape_le span.content
    have hfragments : markers.fragments ⟨span :: spans, rest, unclosed⟩ =
        markers.opening.unescape span.lead :: markers.fragments ⟨spans, rest, unclosed⟩ := rfl
    have hcontents : markers.contents ⟨span :: spans, rest, unclosed⟩ =
        markers.closing.unescape span.content :: markers.contents ⟨spans, rest, unclosed⟩ := rfl
    have hwritten : markers.written ⟨span :: spans, rest, unclosed⟩ =
        markers.writtenSpan span ++ markers.written ⟨spans, rest, unclosed⟩ :=
      written_cons markers span ⟨spans, rest, unclosed⟩
    rw [hfragments, hcontents, hwritten, cost_cons]
    simp only [List.flatten_cons, List.length_append, writtenSpan, Marker.length]
    omega

theorem cost_contents_le (markers : Markers) (text : Text) :
    markers.cost (markers.contents (markers.segment text)) ≤ text.length := by
  have haccount := length_fragments_add_cost_le markers (markers.segment text)
  rw [segment_written] at haccount
  omega

theorem length_assemble_add_cost_le (markers : Markers) (text : Text) {replies : List Text}
    (h : replies.length = (markers.segment text).spans.length) :
    (markers.assemble (markers.segment text) replies).length +
        markers.cost (markers.contents (markers.segment text)) ≤
      text.length + replies.flatten.length := by
  have haccount := length_fragments_add_cost_le markers (markers.segment text)
  have henough : replies.length ≤ (markers.fragments (markers.segment text)).length := by
    simp [fragments, leads, h]
  rw [segment_written] at haccount
  rw [assemble, Text.length_weave henough]
  omega

end Markers

/-! ### The calls of a scan -/

namespace Handler

variable {σ ε : Type} {handler : Handler σ ε} {state last next : σ} {before more replies : List Text}
  {content : Text} {error : ε}

/-- Whatever the handler is asked for in whatever state, it answers. -/
def Returns (handler : Handler σ ε) : Prop :=
  ∀ state content, ∃ reply next, handler.call state content = (.ok reply, next)

theorem Returns.answers (h : handler.Returns) (state : σ) (contents : List Text) :
    ∃ replies last, handler.Answers state contents replies last := by
  induction contents generalizing state with
  | nil => exact ⟨[], state, .nil⟩
  | cons content contents ih =>
    obtain ⟨reply, next, hcall⟩ := h state content
    obtain ⟨replies, last, hrest⟩ := ih next
    exact ⟨reply :: replies, last, .cons hcall hrest⟩

theorem FailsAt.not_answers (h : handler.FailsAt state before content error next) :
    ¬ handler.Answers state (before ++ content :: more) replies last := by
  obtain ⟨answered, middle, hanswers, hfails⟩ := h
  intro hall
  induction hanswers generalizing replies with
  | nil =>
    cases hall with
    | cons hcall _ =>
      rw [hfails] at hcall
      cases hcall
  | cons hfirst _ ih =>
    cases hall with
    | cons hcall hrest =>
      rw [hfirst] at hcall
      obtain ⟨-, rfl⟩ := Prod.mk.inj hcall
      exact ih hfails hrest

end Handler

namespace Markers

variable {σ ε : Type} {handler : Handler σ ε} {state last : σ} {text : Text} {replies : List Text}

theorem answers_contents {markers : Markers}
    (h : handler.Answers state (markers.traced handler state text).calls replies last) :
    handler.Answers state (markers.contents (markers.segment text)) replies last := by
  rcases handler.answers_or_failsAt state (markers.contents (markers.segment text)) with
    ⟨others, other, hanswers⟩ | ⟨before, content, after, error, other, hsplit, hfails⟩
  · rwa [traced_of_answers hanswers] at h
  · rw [traced_of_failsAt hsplit hfails] at h
    exact absurd h hfails.not_answers

/-- A scan is over after as many rounds as the text has characters, and two, and reads at no place outside the
text: it is the same whether such places are counted from the end or refused. Each round takes the cursor forward
inside the text; only where a span is open and has no end may it be at the end of the text already. The calls cost
no more than the text has characters. If the calls are answered, then there is a result, and it is not longer than
the text without the cost of the calls and with the replies; and if all calls are answered, then these are. -/
theorem fill_accounted (markers : Markers) (text : Text) :
    (∀ read ∈ [text.fromEnd, text.strict],
      ∀ (m : Type → Type) [Monad m] [LawfulMonad m] (reply : Text → m Text),
        markers.rounds text read reply (text.length + 2) (.outside 0 []) =
          OptionT.lift (markers.fill reply text)) ∧
    (∀ position, markers.Reaches text position →
      position.cursor ≤ text.length ∧
      (∀ next, markers.Follows text position next →
        position.cursor < next.cursor ∨
          markers.IsUnclosed text position ∧ next.isInside = false ∧ next.cursor = text.length) ∧
      ∀ later, Relation.TransGen (markers.Follows text) position later →
        position.isInside = later.isInside → position.cursor < later.cursor) ∧
    ∀ (σ ε : Type) (handler : Handler σ ε) (state : σ),
      markers.cost (markers.traced handler state text).calls ≤ text.length ∧
      (∀ replies last, handler.Answers state (markers.traced handler state text).calls replies last →
        ∃ result, (markers.traced handler state text).outcome = .ok result ∧
          (markers.traced handler state text).state = last ∧
          result.length + markers.cost (markers.traced handler state text).calls ≤
            text.length + replies.flatten.length) ∧
      (handler.Returns →
        ∃ replies last, handler.Answers state (markers.traced handler state text).calls replies last) := by
  refine ⟨fun read hread m _ _ reply => ?_, fun position hreaches => ⟨?_, ?_, ?_⟩,
    fun σ ε handler state => ⟨?_, ?_, ?_⟩⟩
  · simp only [List.mem_cons, List.not_mem_nil, or_false] at hread
    rcases hread with rfl | rfl
    · exact rounds_eq_fill reply (Reading.agrees_fromEnd text)
    · exact rounds_eq_fill reply (Reading.agrees_strict text)
  · exact hreaches.within.cursor_le
  · intro next hfollows
    exact (hfollows.advances hreaches.within).2
  · intro later hpath
    exact (cursor_lt_of_transGen hreaches.within hpath).2.2
  · have hcalls := calls_isPrefix_contents markers handler state text
    exact (cost_le_of_isPrefix hcalls).trans (cost_contents_le markers text)
  · intro replies last hcalls
    have hanswers := answers_contents hcalls
    have hlength : replies.length = (markers.segment text).spans.length := by
      simpa [contents] using hanswers.length_eq
    rw [traced_of_answers hanswers]
    exact ⟨_, rfl, rfl, length_assemble_add_cost_le markers text hlength⟩
  · intro hreturns
    exact hreturns.answers state _

end Markers

end Stencil
