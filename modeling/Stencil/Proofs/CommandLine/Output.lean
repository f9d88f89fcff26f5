import Stencil.Proofs.CommandLine.Agreement

/-!
Standard output is all or nothing. Whoever sends the output of a run to a file relies on that: a run that fails
in the last span of a long text must not leave the front of it there. Here it is said the other way round, by what
can hinder a run (`Hinders`). The exit code is that of a hindrance if there is one and zero if there is none; in
the first case nothing is written, and in the second the whole text of the run and no more (`invoke_prints`).
An obstacle to the passes over a text is one wherever in the text it stands.
-/

namespace Stencil.CommandLine

/-- What a run leaves on standard output. An error that is not reported leaves nothing there. -/
def printed : Except SetupError Outcome → Text
  | .ok outcome => outcome.output
  | .error _ => []

def exitCode : Except SetupError Outcome → Nat
  | .ok outcome => outcome.code
  | .error _ => 1

/-- The text that an invocation is to fill: the one that is given, were it empty, or else the one in the input. -/
def Invocation.Fills (invocation : Invocation) (input : Input) (text : Text) : Prop :=
  ∃ given, invocation.text = given.map .text ∧ Supplies text given input

def Invocation.LacksValue (invocation : Invocation) (world : World) (settings : Settings) (vars : Option Variables)
    (text : Text) : Prop :=
  invocation.lacksMarker = true ∨
    invocation.lacksSeparator world (invocation.override settings) vars text = true

/-- What hinders a run, and the exit code that comes of it: there is no text, or it is broken off, or a switch that
needs a value has none, or the variables are not had, or something stands in the way of the passes, or the text that
they leave is one that cannot be written. -/
inductive Hinders (world : World) (settings : Settings) (userFile : Path) (input : Input)
    (invocation : Invocation) : Nat → Prop
  | noInput : invocation.text = none → input = .terminal →
      Hinders world settings userFile input invocation 1
  | interrupted : invocation.text = none → input = .interrupted →
      Hinders world settings userFile input invocation 130
  | noText : invocation.text = some .nothing → Hinders world settings userFile input invocation 1
  | setup {text : Text} {error : SetupError} : invocation.Fills input text →
      (collect world userFile invocation).outcome.1 = .error error →
      Hinders world settings userFile input invocation 1
  | noValue {text : Text} {vars : Option Variables} : invocation.Fills input text →
      (collect world userFile invocation).outcome.1 = .ok vars →
      invocation.LacksValue world settings vars text →
      Hinders world settings userFile input invocation 1
  | obstructed {text : Text} {vars : Option Variables} : invocation.Fills input text →
      (collect world userFile invocation).outcome.1 = .ok vars →
      (invocation.override settings).Obstructed world invocation.withFiles vars text →
      Hinders world settings userFile input invocation 1
  | unwritable {text result : Text} {vars : Option Variables} : invocation.Fills input text →
      (collect world userFile invocation).outcome.1 = .ok vars →
      (processed world (invocation.override settings) invocation.withFiles vars (some text)).1 =
        ⟨result, none, true⟩ →
      invocation.leavesHalf world settings vars text result = true →
      Hinders world settings userFile input invocation 1

section

variable {world : World} {settings : Settings} {userFile : Path} {input : Input} {invocation : Invocation}
  {text : Text} {vars : Option Variables}

theorem fills_or_not (invocation : Invocation) (input : Input) :
    (∃ text, invocation.Fills input text) ∨
      invocation.text = some .nothing ∨
      invocation.text = none ∧ (input = .terminal ∨ input = .interrupted) := by
  rcases htext : invocation.text with _ | (text | _)
  · cases input with
    | terminal => exact .inr (.inr ⟨rfl, .inl rfl⟩)
    | piped text => exact .inl ⟨text, none, htext, .piped⟩
    | interrupted => exact .inr (.inr ⟨rfl, .inr rfl⟩)
  · exact .inl ⟨text, some text, htext, .given⟩
  · exact .inr (.inl rfl)

theorem invoke_of_fills (h : invocation.Fills input text) :
    invoke world settings userFile input invocation = fill world settings userFile invocation text := by
  obtain ⟨given, htext, hsupplies⟩ := h
  cases hsupplies <;>
  · rw [invoke, htext, if_neg (by simp)]
    rfl

theorem run_collect (h : (collect world userFile invocation).outcome.1 = .ok vars) :
    (collect world userFile invocation).run.run [] =
      (.ok vars, (collect world userFile invocation).outcome.2) :=
  Prod.ext h rfl

theorem fill_of_setupError {error : SetupError}
    (h : (collect world userFile invocation).outcome.1 = .error error) (text : Text) :
    (fill world settings userFile invocation text).outcome.1 =
      if error.isReported then .ok (.failed 1 (complaint world.wording (error.message world.wording)))
      else .error error := by
  have hcaught := Noted.run_caught (δ := SetupError) (collect world userFile invocation) []
  rw [show ((collect world userFile invocation).run.run []).1 = .error error from h] at hcaught
  rw [Noted.outcome, fill, run_bind_of_ok hcaught]
  cases hreported : error.isReported with
  | false =>
    simp only [hreported]
    rfl
  | true =>
    simp only [hreported, if_true]
    rfl

theorem exists_processed_iff {asked : Settings} {withFiles : Bool} :
    (∃ result, (processed world asked withFiles vars (some text)).1 = ⟨result, none, true⟩) ↔
      ¬ asked.Obstructed world withFiles vars text := by
  rcases process_ends world asked withFiles vars text with
    ⟨result, notes, hrun, hends⟩ | ⟨error, notes, hrun, hfails⟩
  · exact iff_of_true ⟨result, by rw [processed, Option.getD_some, hrun]; rfl⟩ hends.not_obstructed
  · refine iff_of_false ?_ (not_not_intro hfails.obstructed)
    rw [processed, Option.getD_some, hrun]
    simp [Result.ofOutcome]

theorem attempt_eq_ok_iff {result : Text} :
    (invocation.attempt world settings vars text).outcome.1 = .ok result ↔
      ¬ invocation.LacksValue world settings vars text ∧
        (processed world (invocation.override settings) invocation.withFiles vars (some text)).1 =
          ⟨result, none, true⟩ := by
  rw [processed_eq, Option.getD_some, Invocation.LacksValue, not_or, Invocation.attempt]
  by_cases hmarker : invocation.lacksMarker = true
  · rw [if_pos hmarker]
    exact iff_of_false (fun h => by cases h) fun h => h.1.1 hmarker
  · by_cases hseparator : invocation.lacksSeparator world (invocation.override settings) vars text = true
    · rw [if_neg hmarker, if_pos hseparator]
      exact iff_of_false (fun h => by cases h) fun h => h.1.2 hseparator
    · rw [if_neg hmarker, if_neg hseparator, Noted.outcome_adapt]
      cases (Stencil.attempt world (invocation.override settings) invocation.withFiles vars text).outcome.1 <;>
        simp [hmarker, hseparator, Result.ofOutcome, Except.mapError]

theorem fill_hindered (hcollect : (collect world userFile invocation).outcome.1 = .ok vars)
    (h : ∀ result, (invocation.attempt world settings vars text).outcome.1 = .ok result →
      invocation.leavesHalf world settings vars text result = true) :
    let ended := (fill world settings userFile invocation text).outcome.1
    exitCode ended = 1 ∧ printed ended = [] := by
  intro ended
  have hended : ended = _ := fill_of_collected (run_collect hcollect)
  rw [hended]
  cases hattempt : (invocation.attempt world settings vars text).outcome.1 with
  | error error => exact ⟨rfl, rfl⟩
  | ok result =>
    simp only [h result hattempt, if_true]
    exact ⟨rfl, rfl⟩

/-- What hinders a run ends it with its exit code and without output. -/
theorem Hinders.ends {code : Nat} (h : Hinders world settings userFile input invocation code) :
    let ended := (invoke world settings userFile input invocation).outcome.1
    exitCode ended = code ∧ code ≠ 0 ∧ printed ended = [] := by
  cases h with
  | noInput htext hinput =>
    rw [invoke, htext, hinput]
    exact ⟨rfl, by decide, rfl⟩
  | interrupted htext hinput =>
    rw [invoke, htext, hinput]
    exact ⟨rfl, by decide, rfl⟩
  | noText htext =>
    rw [invoke, htext]
    exact ⟨rfl, by decide, rfl⟩
  | setup hfills hcollect =>
    rw [invoke_of_fills hfills, fill_of_setupError hcollect]
    split <;> exact ⟨rfl, by decide, rfl⟩
  | noValue hfills hcollect hlacks =>
    rw [invoke_of_fills hfills]
    obtain ⟨hexit, hprinted⟩ := fill_hindered hcollect fun _ hattempt =>
      absurd hlacks (attempt_eq_ok_iff.1 hattempt).1
    exact ⟨hexit, by decide, hprinted⟩
  | obstructed hfills hcollect hobstructed =>
    rw [invoke_of_fills hfills]
    obtain ⟨hexit, hprinted⟩ := fill_hindered hcollect fun result hattempt =>
      absurd hobstructed (exists_processed_iff.1 ⟨result, (attempt_eq_ok_iff.1 hattempt).2⟩)
    exact ⟨hexit, by decide, hprinted⟩
  | unwritable hfills hcollect hprocessed hleaves =>
    rw [invoke_of_fills hfills]
    obtain ⟨hexit, hprinted⟩ := fill_hindered hcollect fun result hattempt => by
      have hsame := (attempt_eq_ok_iff.1 hattempt).2.symm.trans hprocessed
      rw [Result.mk.injEq] at hsame
      rw [hsame.1, hleaves]
    exact ⟨hexit, by decide, hprinted⟩

theorem invoke_of_not_hinders (h : ∀ code, ¬ Hinders world settings userFile input invocation code) :
    ∃ text vars result, invocation.Fills input text ∧
      (collect world userFile invocation).outcome.1 = .ok vars ∧
      (processed world (invocation.override settings) invocation.withFiles vars (some text)).1 =
        ⟨result, none, true⟩ ∧
      (invoke world settings userFile input invocation).outcome.1 = .ok ⟨0, result, ""⟩ := by
  rcases fills_or_not invocation input with ⟨text, hfills⟩ | htext | ⟨htext, hinput | hinput⟩
  · cases hcollect : (collect world userFile invocation).outcome.1 with
    | error error => exact absurd (.setup hfills hcollect) (h 1)
    | ok vars =>
      obtain ⟨result, hprocessed⟩ := exists_processed_iff.2 fun hobstructed =>
        h 1 (.obstructed hfills hcollect hobstructed)
      have hattempt := attempt_eq_ok_iff.2 ⟨fun hlacks => h 1 (.noValue hfills hcollect hlacks), hprocessed⟩
      have hwritten := fun hleaves => h 1 (.unwritable hfills hcollect hprocessed hleaves)
      refine ⟨text, vars, result, hfills, rfl, hprocessed, ?_⟩
      rw [invoke_of_fills hfills, fill_of_collected (run_collect hcollect), hattempt]
      exact if_neg hwritten
  · exact absurd (.noText htext) (h 1)
  · exact absurd (.noInput htext hinput) (h 1)
  · exact absurd (.interrupted htext hinput) (h 130)

/-- A run ends with an exit code other than zero exactly if something hinders it, and then writes nothing. Otherwise
it writes the text of its result and nothing else, the result being that of a run of the passes on the text that
the invocation is to fill. -/
theorem invoke_prints (world : World) (settings : Settings) (userFile : Path) (input : Input)
    (invocation : Invocation) :
    let ended := (invoke world settings userFile input invocation).outcome.1
    (∀ code, Hinders world settings userFile input invocation code ↔ exitCode ended = code ∧ code ≠ 0) ∧
      (exitCode ended ≠ 0 → printed ended = []) ∧
      (exitCode ended = 0 → ∃ text vars, invocation.Fills input text ∧
        (collect world userFile invocation).outcome.1 = .ok vars ∧
        (processed world (invocation.override settings) invocation.withFiles vars (some text)).1 =
          ⟨printed ended, none, true⟩) := by
  intro ended
  by_cases hhinders : ∃ code, Hinders world settings userFile input invocation code
  · obtain ⟨code, hcode⟩ := hhinders
    obtain ⟨hexit, hne, hprinted⟩ := hcode.ends
    refine ⟨fun other => ⟨fun hother => ?_, ?_⟩, fun _ => hprinted, fun hzero => ?_⟩
    · obtain ⟨hexit', hne', -⟩ := hother.ends
      exact ⟨hexit', hne'⟩
    · rintro ⟨hother, -⟩
      rw [← hother]
      exact hexit.symm ▸ hcode
    · exact absurd (hexit.symm.trans hzero) hne
  · have hnone (code : Nat) : ¬ Hinders world settings userFile input invocation code :=
      fun hcode => hhinders ⟨code, hcode⟩
    obtain ⟨text, vars, result, hfills, hcollect, hprocessed, hended⟩ := invoke_of_not_hinders hnone
    have hexit : exitCode ended = 0 := congrArg exitCode hended
    have hprinted : printed ended = result := congrArg printed hended
    refine ⟨fun code => ⟨fun hcode => absurd hcode (hnone code), ?_⟩, ?_, fun _ => ?_⟩
    · rintro ⟨hcode, hne⟩
      exact absurd (hcode.symm.trans hexit) hne
    · intro hne
      exact absurd hexit hne
    · rw [hprinted]
      exact ⟨text, vars, hfills, hcollect, hprocessed⟩

end

end Stencil.CommandLine
