import Stencil.Proofs.Inclusion.Confinement
import Stencil.Proofs.Pipeline.Notes
import Stencil.Session
import Stencil.Surroundings.Wording

/-!
What is built keeps the settings and follows the variables. A plan in use answers a text as a run under the
settings of the time when it was built would, with the mapping of that time as it is now (`parse_as_built`).
Which mapping that is, and what has become of it, is said twice here. In a session it lies in the store under the
number that the plan keeps. `Session.edited` does not look into the store: it follows the steps, and makes the
changes of those that are taken while the mapping is the one that is there. It leaves when another is put in its
place and comes back when it is put back. That the two agree is the heart of the matter, for a change that went to
the wrong mapping, or to a copy of it, would set them apart.
-/

namespace Stencil

/-! ### Steps take notes and do not read them -/

theorem VariableFile.onlyAdds_load (world : World) (path : Path) :
    OnlyAdds (VariableFile.load world path).run := by
  rw [VariableFile.load]
  split
  · exact Noted.onlyAdds_throw _
  · exact Noted.onlyAdds_bind (Noted.onlyAdds_note _) fun _ => Noted.onlyAdds_pure _
  · split
    · exact Noted.onlyAdds_throw _
    · exact Noted.onlyAdds_throw _
    · split
      · exact Noted.onlyAdds_pure _
      · exact Noted.onlyAdds_throw _

theorem Property.onlyAdds_fill (vars : Option Variables) (enable : Option Bool) (separator : Option Text)
    (text : Text) : OnlyAdds (Property.fill vars enable separator text).run :=
  Property.markers.onlyAdds_fill (Property.lookup vars enable separator).onlyAdds_noted text

namespace Session

theorem onlyAdds_parse (session : Session) (text : Text) : OnlyAdds (session.parse text).run := by
  rw [Session.parse]
  split
  · exact Noted.onlyAdds_pure _
  · next build _ => exact build.plan.onlyAdds_run session.world _ text

theorem onlyAdds_step (session : Session) (step : Step) : OnlyAdds (session.step step) := by
  cases step with
  | assign field value => exact OnlyAdds.pure _
  | replace vars => exact OnlyAdds.pure _
  | restore number => exact OnlyAdds.pure _
  | load path =>
    refine (VariableFile.onlyAdds_load session.world (Path.ofText path)).bind ?_
    rintro (error | vars)
    · exact OnlyAdds.pure _
    · exact OnlyAdds.pure _
  | define name value => exact OnlyAdds.pure _
  | undefine name => exact OnlyAdds.pure _
  | write text bytes => exact OnlyAdds.pure _
  | remove text => exact OnlyAdds.pure _
  | build withFiles =>
    rw [Session.step]
    split
    · exact OnlyAdds.pure _
    · exact OnlyAdds.pure _
  | parse text =>
    refine (session.onlyAdds_parse (text.getD session.last)).bind ?_
    rintro (error | result)
    · exact OnlyAdds.pure _
    · exact OnlyAdds.pure _
  | property text =>
    refine (Property.onlyAdds_fill session.vars none none (text.getD session.last)).bind ?_
    rintro (error | result)
    · exact nomatch error
    · exact OnlyAdds.pure _
  | process withFiles text =>
    exact (onlyAdds_process session.world session.settings withFiles session.vars _).bind
      fun _ => OnlyAdds.pure _

def answer (session : Session) (step : Step) : Answer :=
  ((session.step step).run []).1.1

def next (session : Session) (step : Step) : Session :=
  ((session.step step).run []).1.2

def after (session : Session) (steps : List Step) : Session :=
  ((session.steps steps).run []).1.2

theorem onlyAdds_steps (session : Session) (steps : List Step) : OnlyAdds (session.steps steps) := by
  induction steps generalizing session with
  | nil => exact OnlyAdds.pure _
  | cons step steps ih =>
    exact (session.onlyAdds_step step).bind fun taken => (ih taken.2).bind fun _ => OnlyAdds.pure _

theorem after_cons (session : Session) (step : Step) (steps : List Step) :
    session.after (step :: steps) = (session.next step).after steps := by
  have hrest (taken : Answer × Session) : OnlyAdds (taken.2.steps steps >>= fun answered =>
      Pure.pure (taken.1 :: answered.1, answered.2)) :=
    (taken.2.onlyAdds_steps steps).bind fun _ => OnlyAdds.pure _
  rw [after, Session.steps, OnlyAdds.result_bind hrest]
  rfl

/-! ### What a step does -/

theorem next_load (session : Session) (path : Text) :
    session.next (.load path) =
      match (VariableFile.load session.world (Path.ofText path)).outcome.1 with
      | .ok vars => session.withMapping (some vars)
      | .error _ => session := by
  show ((match (VariableFile.load session.world (Path.ofText path)).outcome.1 with
    | .ok vars => pure (Answer.vars (some vars), session.withMapping (some vars))
    | .error error => pure (.loadError error, session) :
      StateM (List Note) (Answer × Session)).run _).1.2 = _
  split <;> rfl

theorem next_build (session : Session) (withFiles : Bool) :
    session.next (.build withFiles) =
      { session with
        build := (Plan.ofSettings session.world session.settings withFiles).toOption.map
          fun plan => ⟨plan, session.present⟩ } := by
  rw [next, Session.step]
  cases Plan.ofSettings session.world session.settings withFiles <;> rfl

theorem step_parse (session : Session) (text : Option Text) :
    ((session.step (.parse text)).run []).1 =
      match (session.parse (text.getD session.last)).outcome.1 with
      | .ok result => (.text result, { session with last := result })
      | .error error => (.inclusionError error, session) := by
  show ((match (session.parse (text.getD session.last)).outcome.1 with
    | .ok result => pure (Answer.text result, { session with last := result })
    | .error error => pure (.inclusionError error, session) :
      StateM (List Note) (Answer × Session)).run _).1 = _
  split <;> rfl

theorem exists_next_parse (session : Session) (text : Option Text) :
    ∃ last, session.next (.parse text) = { session with last := last } := by
  rw [next, step_parse]
  split
  · exact ⟨_, rfl⟩
  · exact ⟨session.last, rfl⟩

theorem exists_next_property (session : Session) (text : Option Text) :
    ∃ last, session.next (.property text) = { session with last := last } := by
  rw [next, Session.step, StateT.run_bind]
  rcases (Property.fill session.vars none none (text.getD session.last)).run.run [] with
    ⟨error | result, notes⟩
  · exact nomatch error
  · exact ⟨result, rfl⟩

end Session

def Step.builds : Step → Bool
  | .build _ => true
  | _ => false

/-- The change that a step makes in the mapping that is there. -/
def Step.edit : Step → Variables → Variables
  | .define name value => Mapping.insert name value
  | .undefine name => Mapping.erase name
  | _ => id

namespace Session

/-- Whether the mapping with a number is the one that is there after a step, if it is known whether it is before. A new
mapping has a number of its own. -/
def isHere (session : Session) (number : Nat) (here : Bool) : Step → Bool
  | .replace _ => false
  | .restore other => if other < session.store.length then other = number else here
  | .load path => here && !(VariableFile.load session.world (Path.ofText path)).outcome.1.isOk
  | _ => here

/-- What becomes of the mapping with a number: it is changed by the steps that are taken while it is there. -/
def editedFrom (number : Nat) (session : Session) (here : Bool) : List Step → Variables → Variables
  | [], vars => vars
  | step :: steps, vars =>
    editedFrom number (session.next step) (session.isHere number here step) steps
      (if here then step.edit vars else vars)

/-- What becomes of the mapping that is there now. -/
def edited (session : Session) (steps : List Step) (vars : Variables) : Variables :=
  match session.present with
  | none => vars
  | some number => editedFrom number session true steps vars

theorem change_frame (session : Session) (f : Variables → Variables) :
    (session.change f).world = session.world ∧ (session.change f).build = session.build ∧
      (session.change f).present = session.present := by
  rw [change]
  split <;> simp_all

theorem change_id (session : Session) : session.change id = session := by
  rw [change]
  split <;> simp

/-- A step puts a new mapping in the place of the one that is there, or one that is in the store, or makes its change in
the one that is there. -/
inductive Turns (session : Session) (step : Step) (next : Session) : Prop
  | replaced (vars : Option Variables) : (∀ number here, session.isHere number here step = false) →
      step.edit = id → next.store = (session.withMapping vars).store →
      next.present = (session.withMapping vars).present → Turns session step next
  | restored (number : Nat) : step = .restore number → number < session.store.length →
      next.store = session.store → next.present = some number → Turns session step next
  | edited : (∀ number here, session.isHere number here step = here) →
      next.store = (session.change step.edit).store → next.present = session.present → Turns session step next

theorem Turns.apart {session next : Session} {step : Step}
    (hhere : ∀ number here, session.isHere number here step = here) (hedit : step.edit = id)
    (hstore : next.store = session.store) (hpresent : next.present = session.present) :
    session.Turns step next := by
  refine .edited hhere ?_ hpresent
  rw [hedit, session.change_id, hstore]

/-- All that steps do to the directory, to what is built and to the mappings. -/
theorem next_effect (session : Session) (step : Step) :
    (session.next step).world.directory = session.world.directory ∧
      (step.builds = false → (session.next step).build = session.build) ∧
      session.Turns step (session.next step) := by
  cases step with
  | replace vars => cases vars <;> exact ⟨rfl, fun _ => rfl, .replaced _ (fun _ _ => rfl) rfl rfl rfl⟩
  | restore number =>
    have hnext : session.next (.restore number) = session.withStored number := rfl
    rw [hnext, withStored]
    split_ifs with hstored
    · exact ⟨rfl, fun _ => rfl, .restored number rfl hstored rfl rfl⟩
    · exact ⟨rfl, fun _ => rfl, .apart (fun _ _ => if_neg hstored) rfl rfl rfl⟩
  | load path =>
    rw [next_load]
    cases hload : (VariableFile.load session.world (Path.ofText path)).outcome.1 with
    | ok vars =>
      have hleaves (number : Nat) (here : Bool) : session.isHere number here (.load path) = false := by
        rw [isHere, hload]
        exact Bool.and_false here
      exact ⟨rfl, fun _ => rfl, .replaced (some vars) hleaves rfl rfl rfl⟩
    | error error =>
      have hstays (number : Nat) (here : Bool) : session.isHere number here (.load path) = here := by
        rw [isHere, hload]
        exact Bool.and_true here
      exact ⟨rfl, fun _ => rfl, .apart hstays rfl rfl rfl⟩
  | define name value | undefine name =>
    exact ⟨congrArg World.directory (session.change_frame _).1, fun _ => (session.change_frame _).2.1,
      .edited (fun _ _ => rfl) rfl (session.change_frame _).2.2⟩
  | build withFiles =>
    rw [next_build]
    exact ⟨rfl, nofun, .apart (fun _ _ => rfl) rfl rfl rfl⟩
  | parse text =>
    obtain ⟨last, hnext⟩ := session.exists_next_parse text
    rw [hnext]
    exact ⟨rfl, fun _ => rfl, .apart (fun _ _ => rfl) rfl rfl rfl⟩
  | property text =>
    obtain ⟨last, hnext⟩ := session.exists_next_property text
    rw [hnext]
    exact ⟨rfl, fun _ => rfl, .apart (fun _ _ => rfl) rfl rfl rfl⟩
  | assign field value | write text bytes | remove text | process withFiles text =>
    exact ⟨rfl, fun _ => rfl, .apart (fun _ _ => rfl) rfl rfl rfl⟩

/-! ### Mappings in the store -/

/-- The mapping that is there now is in the store. -/
def Sound (session : Session) : Prop :=
  ∀ number, session.present = some number → number < session.store.length

theorem sound_start (world : World) (settings : Settings) (vars : Option Variables) :
    (start world settings vars).Sound := by
  intro number hpresent
  cases vars with
  | none => simp [start] at hpresent
  | some vars =>
    obtain rfl : 0 = number := by simpa [start] using hpresent
    simp [start]

theorem mapping_some (session : Session) (number : Nat) :
    session.mapping (some number) = session.store[number]? := rfl

theorem length_change (session : Session) (f : Variables → Variables) :
    (session.change f).store.length = session.store.length := by
  rw [change]
  split
  · rfl
  · exact List.length_modify ..

theorem getElem?_change (session : Session) (f : Variables → Variables) (number : Nat) :
    (session.change f).store[number]? =
      session.store[number]?.map (if session.present = some number then f else id) := by
  rw [change]
  split
  · next hpresent => simp [hpresent]
  · next other hpresent =>
    rw [hpresent, List.getElem?_modify]
    by_cases hother : other = number <;> simp [hother]

theorem getElem?_withMapping {session : Session} {number : Nat}
    (hstored : number < session.store.length) (vars : Option Variables) :
    (session.withMapping vars).store[number]? = session.store[number]? := by
  cases vars with
  | none => rfl
  | some vars => exact List.getElem?_append_left hstored

theorem present_withMapping_ne {session : Session} {number : Nat}
    (hstored : number < session.store.length) (vars : Option Variables) :
    (session.withMapping vars).present ≠ some number := by
  cases vars with
  | none => nofun
  | some vars =>
    intro hpresent
    obtain rfl : session.store.length = number := Option.some.inj hpresent
    exact absurd hstored (Nat.lt_irrefl _)

theorem sound_next {session : Session} (h : session.Sound) (step : Step) : (session.next step).Sound := by
  intro number hpresent
  rcases (session.next_effect step).2.2 with
    ⟨vars, -, -, hstore, hnumber⟩ | ⟨other, -, hstored, hstore, hnumber⟩ | ⟨-, hstore, hnumber⟩
  · rw [hnumber] at hpresent
    rw [hstore]
    cases vars with
    | none => cases hpresent
    | some vars =>
      obtain rfl : session.store.length = number := Option.some.inj hpresent
      simp [withMapping]
  · obtain rfl : other = number := Option.some.inj (hnumber.symm.trans hpresent)
    rwa [hstore]
  · rw [hstore, length_change]
    exact h number (hnumber ▸ hpresent)

theorem sound_after {session : Session} (h : session.Sound) (steps : List Step) :
    (session.after steps).Sound := by
  induction steps generalizing session with
  | nil => exact h
  | cons step steps ih =>
    rw [after_cons]
    exact ih (sound_next h step)

section

variable {session : Session} {number : Nat} (hstored : number < session.store.length) (step : Step)

include hstored

theorem stored_next : number < (session.next step).store.length := by
  rcases (session.next_effect step).2.2 with ⟨vars, -, -, hstore, -⟩ | ⟨-, -, -, hstore, -⟩ | ⟨-, hstore, -⟩
  · rw [hstore]
    exact (List.getElem?_eq_some_iff.1 ((getElem?_withMapping hstored vars).trans
      (List.getElem?_eq_getElem hstored))).1
  · rwa [hstore]
  · rwa [hstore, length_change]

theorem present_next {here : Bool} (hhere : here = true ↔ session.present = some number) :
    session.isHere number here step = true ↔ (session.next step).present = some number := by
  rcases (session.next_effect step).2.2 with
    ⟨vars, hleaves, -, -, hpresent⟩ | ⟨other, rfl, hother, -, hpresent⟩ | ⟨hstays, -, hpresent⟩
  · rw [hleaves, hpresent]
    exact iff_of_false Bool.false_ne_true (present_withMapping_ne hstored vars)
  · rw [hpresent, isHere, if_pos hother]
    simp
  · rw [hstays, hpresent, hhere]

/-- A step leaves every mapping alone but the one that is there. -/
theorem mapping_next :
    (session.next step).mapping (some number) =
      (session.mapping (some number)).map (if session.present = some number then step.edit else id) := by
  rw [mapping_some, mapping_some]
  rcases (session.next_effect step).2.2 with
    ⟨vars, -, hedit, hstore, -⟩ | ⟨other, rfl, -, hstore, -⟩ | ⟨-, hstore, -⟩
  · rw [hstore, getElem?_withMapping hstored, hedit, ite_self, Option.map_id, id]
  · rw [hstore, show Step.edit (.restore other) = id from rfl, ite_self, Option.map_id, id]
  · rw [hstore, getElem?_change]

end

/-- A mapping in the store takes the changes of all steps that are taken while it is the one that is there. -/
theorem mapping_after {session : Session} {number : Nat} (hstored : number < session.store.length) {here : Bool}
    (hhere : here = true ↔ session.present = some number) (steps : List Step) :
    (session.after steps).mapping (some number) =
      (session.mapping (some number)).map (editedFrom number session here steps) := by
  induction steps generalizing session here with
  | nil => exact Option.map_id'.symm
  | cons step steps ih =>
    rw [after_cons, ih (stored_next hstored step) (present_next hstored step hhere), mapping_next hstored step,
      Option.map_map]
    simp only [← hhere]
    cases here <;> rfl

end Session

/-! ### What is built -/

/-- An answer tells of a text what a result tells of it: the same text, or an error with the same wording. -/
inductive Answer.Tells : Answer → Result → Prop
  | text (text : Text) : Tells (.text text) ⟨text, none, true⟩
  | error (error : InclusionError) : Tells (.inclusionError error) ⟨[], some error.message, false⟩

theorem Answer.Tells.eq_text {answer : Answer} {text : Text} (h : answer.Tells ⟨text, none, true⟩) :
    answer = .text text := by
  cases h
  rfl

theorem Plan.ofSettings_congr {world other : World} (h : world.directory = other.directory)
    (settings : Settings) (withFiles : Bool) :
    ofSettings world settings withFiles = ofSettings other settings withFiles := by
  have hinclusion : Inclusion.ofSettings world settings.fileLimit settings.fileBase =
      Inclusion.ofSettings other settings.fileLimit settings.fileBase := by
    cases settings.fileBase with
    | none => rfl
    | some base => cases base <;> simp [Inclusion.ofSettings, h]
  rw [ofSettings, ofSettings, hinclusion]

namespace Session

theorem build_after {steps : List Step} (h : ∀ step ∈ steps, step.builds = false) (session : Session) :
    (session.after steps).build = session.build := by
  induction steps generalizing session with
  | nil => rfl
  | cons step steps ih =>
    rw [after_cons, ih fun other hother => h other (List.mem_cons_of_mem _ hother),
      (session.next_effect step).2.1 (h step List.mem_cons_self)]

theorem directory_after (session : Session) (steps : List Step) :
    (session.after steps).world.directory = session.world.directory := by
  induction steps generalizing session with
  | nil => rfl
  | cons step steps ih => rw [after_cons, ih, (session.next_effect step).1]

variable {session : Session} {settings : Settings} {withFiles : Bool} {plan : Plan}

theorem plan_of_answer_build (h : session.answer (.build withFiles) = .plan plan) :
    Plan.ofSettings session.world session.settings withFiles = .ok plan := by
  rw [answer, Session.step] at h
  cases hplan : Plan.ofSettings session.world session.settings withFiles with
  | error empty =>
    rw [hplan] at h
    cases h
  | ok other =>
    rw [hplan] at h
    cases h
    rfl

theorem tells_answer_parse {number : Option Nat} (hbuild : session.build = some ⟨plan, number⟩)
    (hplan : Plan.ofSettings session.world settings withFiles = .ok plan) (text : Option Text) :
    (session.answer (.parse text)).Tells (processed session.world settings withFiles
      (session.mapping number) (some (text.getD session.last))).1 := by
  have hparse : session.parse (text.getD session.last) =
      plan.run session.world (session.mapping number) (text.getD session.last) := by
    rw [Session.parse, hbuild]
  rw [answer, step_parse, hparse, processed, Option.getD_some]
  cases hrun : (plan.run session.world (session.mapping number) (text.getD session.last)).outcome with
  | mk outcome notes =>
    cases outcome with
    | ok result =>
      rw [process_of_run_ok hplan hrun]
      exact .text result
    | error error =>
      rw [process_of_run_error hplan hrun]
      exact .error error

/-- After a build and until the next, what is built answers a text as a run under the settings of the build does,
with the mapping of the build as the steps have changed it since. The settings and the mappings that came
later do not matter. -/
theorem parse_as_built (world : World) (settings : Settings) (vars : Option Variables)
    (before after : List Step) (withFiles : Bool) (plan : Plan)
    (hbuilt : ((start world settings vars).after before).answer (.build withFiles) = .plan plan)
    (hafter : ∀ step ∈ after, step.builds = false) (text : Option Text) :
    let built := (start world settings vars).after before
    let later := built.after (.build withFiles :: after)
    let now := built.vars.map (built.edited (.build withFiles :: after))
    later.mapping built.present = now ∧
      (later.answer (.parse text)).Tells
        (processed later.world built.settings withFiles now (some (text.getD later.last))).1 := by
  intro built later now
  have hsound : built.Sound := sound_after (sound_start world settings vars) before
  have hmapping : later.mapping built.present = now := by
    cases hpresent : built.present with
    | none =>
      show none = (built.mapping built.present).map _
      rw [hpresent]
      rfl
    | some number =>
      show _ = (built.mapping built.present).map _
      have hedited : built.edited (.build withFiles :: after) =
          editedFrom number built true (.build withFiles :: after) := by
        funext vars
        rw [edited, hpresent]
      rw [hpresent, hedited]
      exact mapping_after (hsound number hpresent) (by simp [hpresent]) _
  have hplan : Plan.ofSettings built.world built.settings withFiles = .ok plan :=
    plan_of_answer_build hbuilt
  have hbuild : later.build = some ⟨plan, built.present⟩ := by
    show (built.after (.build withFiles :: after)).build = _
    rw [after_cons, build_after hafter, next_build, hplan]
    rfl
  have hlater : Plan.ofSettings later.world built.settings withFiles = .ok plan := by
    rw [Plan.ofSettings_congr (built.directory_after _)]
    exact hplan
  refine ⟨hmapping, ?_⟩
  rw [← hmapping]
  exact tells_answer_parse hbuild hlater text

def studio : World where
  files := (FileSystem.empty.write ["w".toList, "f".toList] [0x62, 0x79]).write ["w".toList, "m".toList]
    [0x7b, 0x7d]
  directory := ⟨.single, ["w".toList]⟩
  home := "/w".toList
  users := []
  wording := .standard fun _ => ""

def rehearsal : Session :=
  (start studio {} (some [(['a'], .text ['e'])])).after
    [.assign "open_token" (.text ['<']), .assign "close_token" (.text ['>']),
      .assign "file_close_token" (.text [']']), .define ['a'] (.text ['g'])]

def rehearsed : Plan where
  markers := ⟨⟨['<'], nofun⟩, ⟨['>'], nofun⟩⟩
  enableDefault := false
  separator := [':']
  files := some (⟨⟨['%', '\x7b'], nofun⟩, ⟨[']'], nofun⟩⟩, ⟨1048576, none⟩)

/-- One more change in the mapping, then another marker and other mappings, and then a change in the first mapping,
which has been put back. -/
def distractions : List Step :=
  [.define ['a'] (.text ['f']), .assign "open_token" (.text ['(']), .load ['m'],
    .define ['a'] (.text ['h']), .replace none, .remove ['m'], .restore 0, .define ['b'] (.text ['k']), .replace none]

/-- What is built then sees the markers of the build and the changes in its mapping, and nothing else. -/
theorem parse_as_built_rehearsal :
    rehearsal.answer (.build true) = .plan rehearsed ∧
      (∀ step ∈ distractions, step.builds = false) ∧
      (rehearsal.after (.build true :: distractions)).answer
        (.parse (some "<a><b> (a) %\x7b<a>]".toList)) = .text "fk (a) by".toList := by
  have hbuilt : rehearsal.answer (.build true) = .plan rehearsed := rfl
  have hafter : ∀ step ∈ distractions, step.builds = false := by decide
  have hresult : (processed (rehearsal.after (.build true :: distractions)).world rehearsal.settings true
      (rehearsal.vars.map (rehearsal.edited (.build true :: distractions)))
      (some "<a><b> (a) %\x7b<a>]".toList)).1 = ⟨"fk (a) by".toList, none, true⟩ := by
    decide +kernel
  have htells : ((rehearsal.after (.build true :: distractions)).answer
      (.parse (some "<a><b> (a) %\x7b<a>]".toList))).Tells _ :=
    (parse_as_built studio {} (some [(['a'], .text ['e'])]) _ distractions true rehearsed hbuilt hafter
      (some "<a><b> (a) %\x7b<a>]".toList)).2
  exact ⟨hbuilt, hafter, (hresult ▸ htells).eq_text⟩

end Session

end Stencil
