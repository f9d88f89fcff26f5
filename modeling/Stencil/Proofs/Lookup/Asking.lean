import Stencil.Proofs.Lookup.Pass
import Stencil.Proofs.Text.Occurrence

/-!
What the spans of a text ask the variables for. A content asks for one name. With defaults enabled this is what
stands before the first separator, and what stands behind it is the default; a content without a separator, or
with defaults disabled, is all name. A content that is itself the name of a variable is split all the same if there
is a separator in it, so that the variable is not found; and with an empty separator every content asks for the
variable whose name is empty.

The name is all that a reply depends on. So a change of one variable changes the replies to the spans that ask for
it and leaves the rest of the text as it is, down to the notes (`fill_assigned`).
-/

namespace Stencil

namespace Mapping

variable {α : Type}

/-- The mapping with this entry under a key in the place of the one that may be there, or without an entry there. -/
def assign (key : Text) : Option α → Mapping α → Mapping α
  | some value, entries => entries.insert key value
  | none, entries => entries.erase key

theorem get?_assign (key other : Text) (entry : Option α) (entries : Mapping α) :
    get? other (assign key entry entries) = if key = other then entry else get? other entries := by
  cases entry with
  | some value => exact get?_insert entries key other value
  | none => exact get?_erase entries key other

end Mapping

namespace Lookup

variable {lookup : Lookup} {content name : Text} {default : Option Text}

/-- A content asks for the variable with this name and brings along this default, if any. It is split at the
first separator, or all of it is the name. -/
inductive Asks (lookup : Lookup) : Text → Text → Option Text → Prop
  | split {name default : Text} : lookup.enableDefault = true →
      (∀ front back, name ++ lookup.separator ++ default = front ++ lookup.separator ++ back →
        name.length ≤ front.length) →
      Asks lookup (name ++ lookup.separator ++ default) name (some default)
  | whole {content : Text} : (lookup.enableDefault = true → ¬ lookup.separator <:+: content) →
      Asks lookup content content none

theorem Asks.question_eq (h : lookup.Asks content name default) :
    lookup.question content = (name, default) := by
  cases h with
  | split henabled hfirst =>
    rw [question, if_pos henabled, Text.cut?_eq_some_iff_first.2 ⟨rfl, hfirst⟩]
  | whole hwhole =>
    rw [question]
    split
    · next henabled => rw [Text.cut?_eq_none_iff.2 (hwhole henabled)]
    · rfl

theorem asks_question (lookup : Lookup) (content : Text) :
    lookup.Asks content (lookup.question content).1 (lookup.question content).2 := by
  rw [question]
  cases henabled : lookup.enableDefault with
  | false =>
    rw [if_neg Bool.false_ne_true]
    exact .whole fun htrue => absurd (henabled.symm.trans htrue) Bool.false_ne_true
  | true =>
    rw [if_pos rfl]
    cases hcut : Text.cut? lookup.separator content with
    | none => exact .whole fun _ => Text.cut?_eq_none_iff.1 hcut
    | some cut =>
      obtain ⟨name, default⟩ := cut
      obtain ⟨rfl, hfirst⟩ := Text.cut?_eq_some_iff_first.1 hcut
      exact .split henabled hfirst

theorem existsUnique_asks (lookup : Lookup) (content : Text) :
    ∃! asked : Text × Option Text, lookup.Asks content asked.1 asked.2 := by
  refine ⟨lookup.question content, lookup.asks_question content, ?_⟩
  rintro ⟨name, default⟩ hasks
  exact hasks.question_eq.symm

/-- The spans answered from these variables, with the options as they are. -/
def withVars (lookup : Lookup) (vars : Variables) : Lookup :=
  { lookup with vars := some vars }

variable {vars : Variables}

theorem Asks.answer?_eq (h : lookup.Asks content name default) (vars : Variables) :
    (lookup.withVars vars).answer? content = ((vars.get? name).map Value.display).or default := by
  have hquestion : (lookup.withVars vars).question content = (name, default) := h.question_eq
  have hvars : (lookup.withVars vars).vars = some vars := rfl
  simp only [answer?, hvars, hquestion, Option.bind_eq_bind, Option.bind_some]
  cases vars.get? name <;> rfl

theorem Asks.reply_eq (h : lookup.Asks content name default) (vars : Variables) :
    (lookup.withVars vars).reply content =
      (((vars.get? name).map Value.display).or default).getD (lookup.rewrap content) := by
  rw [reply, h.answer?_eq]
  rfl

/-- It is worth a note that there is no variable with the name that is asked for, if there is no default. -/
theorem Asks.isUnknown_eq (h : lookup.Asks content name default) (vars : Variables) :
    (lookup.withVars vars).isUnknown content = ((vars.get? name).isNone && default.isNone) := by
  rw [isUnknown, h.answer?_eq]
  show (true && _) = _
  cases vars.get? name <;> cases default <;> rfl

/-- A content is unknown if it is no name of a variable and, with defaults enabled, holds no separator. -/
theorem isUnknown_withVars_iff :
    (lookup.withVars vars).isUnknown content = true ↔ vars.get? content = none ∧
      (lookup.enableDefault = true → ¬ lookup.separator <:+: content) := by
  have hasks := lookup.asks_question content
  rw [hasks.isUnknown_eq, Bool.and_eq_true, Option.isNone_iff_eq_none, Option.isNone_iff_eq_none]
  generalize (lookup.question content).1 = name, (lookup.question content).2 = default at hasks
  cases hasks with
  | split henabled _ =>
    refine iff_of_false (fun h => nomatch h.2) fun h => h.2 henabled ?_
    exact ⟨_, _, rfl⟩
  | whole hwhole => exact and_congr_right fun _ => iff_of_true rfl hwhole

end Lookup

namespace Markers

variable {ε : Type}

/-- A pass in which every span has the same answer as in another, and is noted if it is noted there, comes to the
same. -/
theorem fill_noted_congr (markers : Markers) {lookup other : Lookup} {text : Text}
    (h : ∀ content ∈ markers.contents (markers.segment text),
      lookup.reply content = other.reply content ∧ lookup.isUnknown content = other.isUnknown content)
    (notes : List Note) :
    (markers.fill (lookup.noted : Handler (List Note) ε) text).run.run notes =
      (markers.fill (other.noted : Handler (List Note) ε) text).run.run notes := by
  have hreplies : (markers.contents (markers.segment text)).map lookup.reply =
      (markers.contents (markers.segment text)).map other.reply :=
    List.map_congr_left fun content hcontent => (h content hcontent).1
  have hunknown : (markers.contents (markers.segment text)).filter lookup.isUnknown =
      (markers.contents (markers.segment text)).filter other.isUnknown :=
    List.filter_congr fun content hcontent => (h content hcontent).2
  rw [fill_noted, fill_noted, filled_eq_assemble, filled_eq_assemble, hreplies, Lookup.notesOn,
    Lookup.notesOn, hunknown]

/-- One variable is added, taken away or given another value. The literal texts stay as they are. So does the reply
to a span that asks for another name. A span that asks for this one gets the text of the new value, or else its
default, or else goes back between the markers. If no span asks for it, the text and the notes are the same. -/
theorem fill_assigned {ε : Type} (markers : Markers) (lookup : Lookup) (vars : Variables) (key : Text)
    (entry : Option Value) (text : Text) :
    let before := lookup.withVars vars
    let after := lookup.withVars (vars.assign key entry)
    let contents := markers.contents (markers.segment text)
    let fragments := markers.fragments (markers.segment text)
    fragments.length = contents.length + 1 ∧
    (∃ notes, (markers.fill before.noted text : Noted ε Text).outcome =
      (.ok (Text.weave fragments (contents.map before.reply)), notes)) ∧
    (∃ notes, (markers.fill after.noted text : Noted ε Text).outcome =
      (.ok (Text.weave fragments (contents.map after.reply)), notes)) ∧
    (∀ content, ∃! asked : Text × Option Text, lookup.Asks content asked.1 asked.2) ∧
    (∀ content name default, lookup.Asks content name default →
      (name ≠ key → after.reply content = before.reply content) ∧
      (name = key → after.reply content =
        match entry, default with
        | some value, _ => value.display
        | none, some default => default
        | none, none => lookup.opening ++ content ++ lookup.closing)) ∧
    ((∀ content ∈ contents, ∀ default, ¬ lookup.Asks content key default) →
      (markers.fill after.noted text : Noted ε Text).outcome =
        (markers.fill before.noted text : Noted ε Text).outcome) := by
  intro before after contents fragments
  have hfill (lookup : Lookup) : ∃ notes, (markers.fill lookup.noted text : Noted ε Text).outcome =
      (.ok (Text.weave fragments (contents.map lookup.reply)), notes) := by
    refine ⟨lookup.notesOn contents, ?_⟩
    rw [Noted.outcome, fill_noted, filled_eq_assemble]
    rfl
  -- Under another name the same is found after the change.
  have hother {name : Text} (hname : name ≠ key) :
      (vars.assign key entry).get? name = vars.get? name := by
    rw [Mapping.get?_assign, if_neg hname.symm]
  refine ⟨by simp [fragments, contents, Markers.fragments, leads, Markers.contents], hfill before,
    hfill after, lookup.existsUnique_asks, ?_, ?_⟩
  · intro content name default hasks
    constructor
    · intro hname
      rw [hasks.reply_eq, hasks.reply_eq, hother hname]
    · rintro rfl
      rw [hasks.reply_eq, Mapping.get?_assign, if_pos rfl]
      cases entry <;> cases default <;> rfl
  · intro hnone
    refine fill_noted_congr markers ?_ []
    intro content hcontent
    have hasks := lookup.asks_question content
    have hname : (lookup.question content).1 ≠ key := by
      intro hkey
      rw [hkey] at hasks
      exact hnone content hcontent _ hasks
    constructor
    · rw [hasks.reply_eq, hasks.reply_eq, hother hname]
    · rw [hasks.isUnknown_eq, hasks.isUnknown_eq, hother hname]

end Markers

end Stencil
