import Stencil.Pipeline
import Stencil.Proofs.Scan.Filling
import Stencil.Proofs.Scan.Replies

/-!
A pass over the spans of variables. The reply to such a span is worked out from its content alone, and what
the pass notes on the way is kept apart from it. So a pass always ends with a text, and the text is the one
that the scan makes with the replies as a plain function (`fill_noted`). What is said of a pass is therefore
said of `Markers.filled`, where there is no state and no failure. The variables come in only through what is
found in them, so their order does not matter (`process_congr`).
-/

namespace Stencil

namespace Lookup

/-- The notes on those contents that have no answer, in their order. -/
def notesOn (lookup : Lookup) (contents : List Text) : List Note :=
  (contents.filter lookup.isUnknown).map .unknownVariable

@[simp] theorem notesOn_nil (lookup : Lookup) : lookup.notesOn [] = [] := rfl

theorem notesOn_cons (lookup : Lookup) (content : Text) (contents : List Text) :
    lookup.notesOn (content :: contents) =
      (if lookup.isUnknown content then [.unknownVariable content] else []) ++
        lookup.notesOn contents := by
  cases h : lookup.isUnknown content <;> simp [notesOn, h]

variable {ε : Type}

theorem call_noted (lookup : Lookup) (notes : List Note) (content : Text) :
    Handler.call (lookup.noted : Handler (List Note) ε) notes content =
      (.ok (lookup.reply content),
        notes ++ if lookup.isUnknown content then [.unknownVariable content] else []) := by
  cases h : lookup.isUnknown content <;> simp [Handler.call, noted, h] <;> rfl

theorem answers_noted (lookup : Lookup) (notes : List Note) (contents : List Text) :
    Handler.Answers (lookup.noted : Handler (List Note) ε) notes contents
      (contents.map lookup.reply) (notes ++ lookup.notesOn contents) := by
  induction contents generalizing notes with
  | nil => simpa using Handler.Answers.nil
  | cons content contents ih =>
    rw [notesOn_cons, ← List.append_assoc]
    exact .cons (call_noted lookup notes content) (ih _)

end Lookup

namespace Markers

theorem fill_noted {ε : Type} (markers : Markers) (lookup : Lookup) (text : Text) (notes : List Note) :
    (markers.fill (lookup.noted : Handler (List Note) ε) text).run.run notes =
      (.ok (markers.filled lookup.reply text),
        notes ++ lookup.notesOn (markers.contents (markers.segment text))) := by
  rw [fill_of_answers (lookup.answers_noted notes _), filled_eq_assemble]

def lookup (markers : Markers) (vars : Option Variables) (enableDefault : Bool) (separator : Text) :
    Lookup where
  vars := vars
  enableDefault := enableDefault
  separator := separator
  opening := markers.opening.text
  closing := markers.closing.text

theorem rewrap_lookup (markers : Markers) (vars : Option Variables) (enableDefault : Bool)
    (separator content : Text) :
    (markers.lookup vars enableDefault separator).rewrap content = markers.wrapped content := rfl

theorem reply_lookup (markers : Markers) (vars : Variables) (separator content : Text) :
    (markers.lookup (some vars) false separator).reply content =
      ((vars.get? content).map Value.display).getD (markers.wrapped content) := by
  rw [Lookup.reply, rewrap_lookup]
  cases h : vars.get? content <;> simp [lookup, Lookup.answer?, Lookup.question, h]

end Markers

/-! ### Variables in which the same is found -/

section

variable {vars others : Variables} {ε : Type}

theorem Plan.noted_congr (plan : Plan) (h : ∀ key, vars.get? key = others.get? key) :
    ((plan.lookup (some vars)).noted : Text → Noted ε Text) = (plan.lookup (some others)).noted := by
  funext content
  have hanswer : (plan.lookup (some vars)).answer? content =
      (plan.lookup (some others)).answer? content := by
    simp only [Lookup.answer?, Lookup.question, Plan.lookup, Option.bind_eq_bind, Option.bind_some, h]
    rfl
  have hunknown : (plan.lookup (some vars)).isUnknown content =
      (plan.lookup (some others)).isUnknown content := by
    rw [Lookup.isUnknown, Lookup.isUnknown, hanswer]
    rfl
  have hreply : (plan.lookup (some vars)).reply content = (plan.lookup (some others)).reply content := by
    rw [Lookup.reply, Lookup.reply, hanswer]
    rfl
  rw [Lookup.noted, Lookup.noted, hunknown, hreply]

/-- All that a run sees of the variables is what is found under their keys. -/
theorem process_congr (world : World) (settings : Settings) (withFiles : Bool) (text : Text)
    (h : ∀ key, vars.get? key = others.get? key) :
    process world settings withFiles (some vars) text =
      process world settings withFiles (some others) text := by
  have hrun (plan : Plan) : plan.run world (some vars) text = plan.run world (some others) text := by
    rw [Plan.run, Plan.run, plan.noted_congr h]
  simp only [process, attempt, hrun]

end

end Stencil
