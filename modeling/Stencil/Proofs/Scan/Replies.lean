import Stencil.Proofs.Scan.Spans

/-!
What a scan asks for does not depend on what it is told. A handler answers contents; it has a state, which
each call may change, and a call may fail. Whatever the handler does, the contents it is asked for come
from one list, in the order of the list, and a run ends early only with the error of a call
(`fill_independent_of_handler`). A reply that holds markers or backslashes is put down as it is.

The calls are made visible by a handler that writes them down in its state (`Handler.recorded`). It is a
handler like any other, so what is said of all handlers holds of it.
-/

namespace Stencil

section

variable {σ ε α β : Type} {computation : ExceptT ε (StateM σ) α} {next : α → ExceptT ε (StateM σ) β}
  {state last : σ}

theorem run_bind_of_ok {a : α} (h : computation.run.run state = (.ok a, last)) :
    (computation >>= next).run.run state = (next a).run.run last := by
  rw [ExceptT.run_bind, StateT.run_bind, h]
  rfl

theorem run_bind_of_error {error : ε} (h : computation.run.run state = (.error error, last)) :
    (computation >>= next).run.run state = (.error error, last) := by
  rw [ExceptT.run_bind, StateT.run_bind, h]
  rfl

end

abbrev Handler (σ ε : Type) : Type := Text → ExceptT ε (StateM σ) Text

namespace Handler

variable {σ ε : Type}

def call (handler : Handler σ ε) (state : σ) (content : Text) : Except ε Text × σ :=
  (handler content).run.run state

/-- The handler that also writes down what it is asked for, before it answers or fails. -/
def recorded (handler : Handler σ ε) : Handler (σ × List Text) ε := fun content =>
  ExceptT.mk fun (state, calls) =>
    ((handler.call state content).1, (handler.call state content).2, calls ++ [content])

/-- The calls for the contents in turn are all answered, with these replies. -/
inductive Answers (handler : Handler σ ε) : σ → List Text → List Text → σ → Prop
  | nil {state : σ} : handler.Answers state [] [] state
  | cons {state next last : σ} {content reply : Text} {contents replies : List Text} :
      handler.call state content = (.ok reply, next) →
      handler.Answers next contents replies last →
      handler.Answers state (content :: contents) (reply :: replies) last

/-- The calls for the contents before are answered, and the one for this content fails. -/
def FailsAt (handler : Handler σ ε) (state : σ) (before : List Text) (content : Text) (error : ε)
    (last : σ) : Prop :=
  ∃ replies next, handler.Answers state before replies next ∧
    handler.call next content = (.error error, last)

variable {handler : Handler σ ε} {state last : σ}

@[simp] theorem call_recorded (handler : Handler σ ε) (state : σ) (calls : List Text)
    (content : Text) :
    handler.recorded.call (state, calls) content =
      ((handler.call state content).1, (handler.call state content).2, calls ++ [content]) := rfl

theorem Answers.recorded {contents replies : List Text}
    (h : handler.Answers state contents replies last) (calls : List Text) :
    handler.recorded.Answers (state, calls) contents replies (last, calls ++ contents) := by
  induction h generalizing calls with
  | nil => simpa using Answers.nil
  | @cons state next last content reply contents replies hcall _ ih =>
    have hrest := ih (calls ++ [content])
    rw [List.append_assoc, List.singleton_append] at hrest
    refine .cons ?_ hrest
    rw [call_recorded, hcall]

theorem FailsAt.recorded {before : List Text} {content : Text} {error : ε}
    (h : handler.FailsAt state before content error last) :
    handler.recorded.FailsAt (state, []) before content error (last, before ++ [content]) := by
  obtain ⟨replies, next, hanswers, hcall⟩ := h
  refine ⟨replies, (next, before), by simpa using hanswers.recorded [], ?_⟩
  rw [call_recorded, hcall]

theorem answers_or_failsAt (handler : Handler σ ε) (state : σ) (contents : List Text) :
    (∃ replies last, handler.Answers state contents replies last) ∨
      ∃ before content after error last, contents = before ++ content :: after ∧
        handler.FailsAt state before content error last := by
  induction contents generalizing state with
  | nil => exact .inl ⟨[], state, .nil⟩
  | cons content contents ih =>
    cases hcall : handler.call state content with | mk answer next
    cases answer with
    | error error => exact .inr ⟨[], content, contents, error, next, rfl, [], state, .nil, hcall⟩
    | ok reply =>
      rcases ih next with ⟨replies, last, hrest⟩ | ⟨before, later, after, error, last, rfl, hfails⟩
      · exact .inl ⟨reply :: replies, last, .cons hcall hrest⟩
      · obtain ⟨replies, middle, hrest, hlater⟩ := hfails
        exact .inr ⟨content :: before, later, after, error, last, rfl, reply :: replies, middle,
          .cons hcall hrest, hlater⟩

/-! ### A run over a list of contents -/

theorem Answers.mapM_run {contents replies : List Text}
    (h : handler.Answers state contents replies last) :
    (contents.mapM handler).run.run state = (.ok replies, last) := by
  induction h with
  | nil => rfl
  | cons hcall _ ih =>
    rw [List.mapM_cons, run_bind_of_ok hcall, run_bind_of_ok ih]
    rfl

theorem FailsAt.mapM_run {before : List Text} {content : Text} {error : ε}
    (h : handler.FailsAt state before content error last) (after : List Text) :
    ((before ++ content :: after).mapM handler).run.run state = (.error error, last) := by
  obtain ⟨replies, next, hanswers, hcall⟩ := h
  have hrest : ((content :: after).mapM handler).run.run next = (.error error, last) := by
    rw [List.mapM_cons, run_bind_of_error hcall]
  rw [List.mapM_append, run_bind_of_ok hanswers.mapM_run, run_bind_of_error hrest]

end Handler

namespace Markers

variable {σ ε : Type} {handler : Handler σ ε} {state last : σ}

theorem fill_of_answers {markers : Markers} {text : Text} {replies : List Text}
    (h : handler.Answers state (markers.contents (markers.segment text)) replies last) :
    (markers.fill handler text).run.run state =
      (.ok (markers.assemble (markers.segment text) replies), last) := by
  rw [fill_eq_assemble, run_bind_of_ok h.mapM_run]
  rfl

theorem fill_of_failsAt {markers : Markers} {text : Text} {before after : List Text}
    {content : Text} {error : ε}
    (hcontents : markers.contents (markers.segment text) = before ++ content :: after)
    (h : handler.FailsAt state before content error last) :
    (markers.fill handler text).run.run state = (.error error, last) := by
  rw [fill_eq_assemble, hcontents, run_bind_of_error (h.mapM_run after)]

/-- For markers and a text there are contents and literal texts such that, for every handler in every
state: if it answers the contents in turn, then these are the calls, and the result is the literal texts
with the replies between them; if it fails at one of them, then that is the last call, and the result is
its error. One of the two is the case. -/
theorem fill_independent_of_handler (markers : Markers) (text : Text) :
    ∃ contents fragments : List Text, fragments.length = contents.length + 1 ∧
      ∀ (σ ε : Type) (handler : Handler σ ε) (state : σ),
        (∀ replies last, handler.Answers state contents replies last →
          (markers.fill handler.recorded text).run.run (state, []) =
            (.ok (Text.weave fragments replies), (last, contents))) ∧
        (∀ before content after error last, contents = before ++ content :: after →
          handler.FailsAt state before content error last →
          (markers.fill handler.recorded text).run.run (state, []) =
            (.error error, (last, before ++ [content]))) ∧
        ((∃ replies last, handler.Answers state contents replies last) ∨
          ∃ before content after error last, contents = before ++ content :: after ∧
            handler.FailsAt state before content error last) := by
  refine ⟨markers.contents (markers.segment text), markers.fragments (markers.segment text),
    by simp [fragments, leads, contents], fun σ ε handler state => ⟨?_, ?_, ?_⟩⟩
  · intro replies last hanswers
    exact fill_of_answers (by simpa using hanswers.recorded [])
  · intro before content after error last hcontents hfails
    exact fill_of_failsAt hcontents hfails.recorded
  · exact handler.answers_or_failsAt state _

end Markers

end Stencil
