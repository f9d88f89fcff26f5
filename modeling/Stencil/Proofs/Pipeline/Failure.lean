import Stencil.Proofs.Lookup.Pass

/-!
When a run fails, and with what. The pass over the spans of variables cannot fail. What can go wrong is that
a marker is empty, which is found out before the text is looked at, and that a file is not to be had, which
ends the pass over the spans of files at the first such span. So a run fails exactly if one of these is the
case (`processed_exactly`), and of several causes the one that comes first in this order is the error.

The runs here are runs from some notes to more notes. `Handler.recorded` shows which spans are asked for
before a pass ends.
-/

namespace Stencil

section

variable {α β ε : Type} {f : α → Except ε β}

theorem mapM_ok_or_error (f : α → Except ε β) (members : List α) :
    (∃ answers, members.mapM f = .ok answers) ∨
      ∃ before member after answers error, members = before ++ member :: after ∧
        before.mapM f = .ok answers ∧ f member = .error error := by
  induction members with
  | nil => exact .inl ⟨[], rfl⟩
  | cons member members ih =>
    cases hmember : f member with
    | error error => exact .inr ⟨[], member, members, [], error, rfl, rfl, hmember⟩
    | ok answer =>
      rcases ih with ⟨answers, hall⟩ | ⟨before, first, after, answers, error, rfl, hbefore, hfirst⟩
      · exact .inl ⟨answer :: answers, by rw [List.mapM_cons, hmember, hall]; rfl⟩
      · exact .inr ⟨member :: before, first, after, answer :: answers, error, rfl,
          by rw [List.mapM_cons, hmember, hbefore]; rfl, hfirst⟩

theorem mapM_eq_ok_map {g : α → β} {members : List α} (h : ∀ member ∈ members, f member = .ok (g member)) :
    members.mapM f = .ok (members.map g) := by
  induction members with
  | nil => rfl
  | cons member members ih =>
    rw [List.mapM_cons, h member List.mem_cons_self,
      ih fun other hother => h other (List.mem_cons_of_mem _ hother)]
    rfl

theorem ok_of_mapM_ok {members : List α} {answers : List β} (h : members.mapM f = .ok answers) :
    ∀ member ∈ members, ∃ answer, f member = .ok answer := by
  induction members generalizing answers with
  | nil => simp
  | cons member members ih =>
    rw [List.mapM_cons] at h
    cases hmember : f member with
    | error error => simp [hmember, bind, Except.bind] at h
    | ok answer =>
      cases hrest : members.mapM f with
      | error error => simp [hmember, hrest, bind, Except.bind] at h
      | ok more =>
        intro other hother
        rcases List.mem_cons.1 hother with rfl | hother
        · exact ⟨answer, hmember⟩
        · exact ih hrest other hother

end

namespace Noted

variable {ε δ α : Type} {computation : Noted ε α} {notes taken : List Note}

theorem run_adapt (f : ε → δ) (computation : Noted ε α) (notes : List Note) :
    (computation.adapt f).run.run notes =
      ((computation.run.run notes).1.mapError f, (computation.run.run notes).2) := rfl

theorem run_caught (computation : Noted ε α) (notes : List Note) :
    (computation.caught : Noted δ (Except ε α)).run.run notes =
      (.ok (computation.run.run notes).1, (computation.run.run notes).2) := rfl

theorem reporting_eq (message : ε → String) (computation : Noted ε α) :
    (computation.reporting message).run = computation.run >>= fun
      | .ok a => pure (.ok a)
      | .error error => do
        note (.failure (message error))
        return .error error := rfl

variable {message : ε → String}

theorem run_reporting_of_ok {a : α} (h : computation.run.run notes = (.ok a, taken)) :
    (computation.reporting message).run.run notes = (.ok a, taken) := by
  rw [reporting_eq, StateT.run_bind, h]
  rfl

theorem run_reporting_of_error {error : ε} (h : computation.run.run notes = (.error error, taken)) :
    (computation.reporting message).run.run notes =
      (.error error, taken ++ [.failure (message error)]) := by
  rw [reporting_eq, StateT.run_bind, h]
  rfl

theorem outcome_adapt (f : ε → δ) (computation : Noted ε α) :
    (outcome (computation.adapt f)).1 = computation.outcome.1.mapError f := rfl

theorem outcome_reporting (message : ε → String) (computation : Noted ε α) :
    (computation.reporting message).outcome.1 = computation.outcome.1 := by
  rw [outcome, outcome]
  cases hrun : computation.run.run [] with
  | mk ended taken =>
    cases ended with
    | ok a => rw [run_reporting_of_ok hrun]
    | error error => rw [run_reporting_of_error hrun]

end Noted

/-! ### Spans of files -/

namespace Inclusion

variable {inclusion : Inclusion} {world : World} {contents replies : List Text}

def noteOn (error : InclusionError) : List Note :=
  if error.namesFile then [.inclusion error] else []

theorem call_noted_of_ok {content text : Text} (h : inclusion.reply world content = .ok text)
    (notes : List Note) :
    Handler.call (inclusion.noted world) notes content = (.ok text, notes) := by
  rw [Handler.call, noted, h]
  rfl

theorem call_noted_of_error {content : Text} {error : InclusionError}
    (h : inclusion.reply world content = .error error) (notes : List Note) :
    Handler.call (inclusion.noted world) notes content = (.error error, notes ++ noteOn error) := by
  rw [Handler.call, noted, h]
  cases hfile : error.namesFile <;> simp [noteOn, hfile] <;> rfl

theorem answers_noted (h : contents.mapM (inclusion.reply world) = .ok replies) (notes : List Note) :
    Handler.Answers (inclusion.noted world) notes contents replies notes := by
  induction contents generalizing replies with
  | nil =>
    cases h
    exact .nil
  | cons content contents ih =>
    rw [List.mapM_cons] at h
    cases hcontent : inclusion.reply world content with
    | error error => simp [hcontent, bind, Except.bind] at h
    | ok text =>
      cases hrest : contents.mapM (inclusion.reply world) with
      | error error => simp [hcontent, hrest, bind, Except.bind] at h
      | ok more =>
        simp only [hcontent, hrest, bind, Except.bind, pure, Except.pure, Except.ok.injEq] at h
        exact h ▸ .cons (call_noted_of_ok hcontent notes) (ih hrest)

theorem failsAt_noted (h : contents.mapM (inclusion.reply world) = .ok replies) {content : Text}
    {error : InclusionError} (hcontent : inclusion.reply world content = .error error)
    (notes : List Note) :
    Handler.FailsAt (inclusion.noted world) notes contents content error (notes ++ noteOn error) :=
  ⟨replies, notes, answers_noted h notes, call_noted_of_error hcontent notes⟩

end Inclusion

/-! ### Settings -/

theorem Markers.exists_of?_eq_error_iff {opening closing : Text} :
    (∃ empty, Markers.of? opening closing = .error empty) ↔ opening = [] ∨ closing = [] := by
  cases opening <;> cases closing <;> simp [Markers.of?]

theorem Markers.not_empty_of_of?_eq_ok {opening closing : Text} {markers : Markers}
    (h : Markers.of? opening closing = .ok markers) : ¬ (opening = [] ∨ closing = []) := by
  rw [← Markers.exists_of?_eq_error_iff, h]
  simp

namespace Settings

def inclusion (settings : Settings) (world : World) : Inclusion :=
  .ofSettings world settings.fileLimit settings.fileBase

def lookup (settings : Settings) (markers : Markers) (vars : Option Variables) : Lookup :=
  markers.lookup vars settings.enableDefault settings.separator

/-- The text that the pass over the spans of variables leaves. -/
def filledIn (settings : Settings) (markers : Markers) (vars : Option Variables) (text : Text) : Text :=
  markers.filled (settings.lookup markers vars).reply text

/-- The notes of the pass over the spans of variables. -/
def notedIn (settings : Settings) (markers : Markers) (vars : Option Variables) (text : Text) :
    List Note :=
  (settings.lookup markers vars).notesOn (markers.contents (markers.segment text))

/-- The contents of the spans of files in what the pass over the spans of variables leaves. -/
def fileContents (settings : Settings) (markers fileMarkers : Markers) (vars : Option Variables)
    (text : Text) : List Text :=
  fileMarkers.contents (fileMarkers.segment (settings.filledIn markers vars text))

def plan (settings : Settings) (markers : Markers) (files : Option (Markers × Inclusion)) : Plan where
  markers := markers
  enableDefault := settings.enableDefault
  separator := settings.separator
  files := files

end Settings

/-! ### Runs -/

section

variable {world : World} {settings : Settings} {withFiles : Bool} {vars : Option Variables} {text : Text}
  {empty : EmptyMarkers} {markers fileMarkers : Markers}

theorem process_of_plan_error (h : Plan.ofSettings world settings withFiles = .error empty) :
    (process world settings withFiles vars text).outcome =
      (.error (.markers empty), [.failure (empty.message world.wording)]) := by
  have hrun : (attempt world settings withFiles vars text).run.run [] =
      (.error (.markers empty), []) := by
    rw [attempt, h]
    rfl
  exact Noted.run_reporting_of_error hrun

theorem process_of_run_ok {plan : Plan} (h : Plan.ofSettings world settings withFiles = .ok plan)
    {result : Text} {notes : List Note}
    (hrun : (plan.run world vars text).run.run [] = (.ok result, notes)) :
    (process world settings withFiles vars text).outcome = (.ok result, notes) := by
  refine Noted.run_reporting_of_ok ?_
  simp only [attempt, h]
  rw [Noted.run_adapt, hrun]
  rfl

theorem process_of_run_error {plan : Plan} (h : Plan.ofSettings world settings withFiles = .ok plan)
    {error : InclusionError} {notes : List Note}
    (hrun : (plan.run world vars text).run.run [] = (.error error, notes)) :
    (process world settings withFiles vars text).outcome =
      (.error (.inclusion error), notes ++ [.failure error.message]) := by
  have hattempt : (attempt world settings withFiles vars text).run.run [] =
      (.error (.inclusion error), notes) := by
    simp only [attempt, h]
    rw [Noted.run_adapt, hrun]
    rfl
  exact Noted.run_reporting_of_error hattempt

theorem process_of_markers_error (h : settings.markers = .error empty) :
    (process world settings withFiles vars text).outcome =
      (.error (.markers empty), [.failure (empty.message world.wording)]) :=
  process_of_plan_error (by rw [Plan.ofSettings, h]; rfl)

theorem process_of_fileMarkers_error (hmarkers : settings.markers = .ok markers)
    (h : settings.fileMarkers = .error empty) :
    (process world settings true vars text).outcome =
      (.error (.markers empty), [.failure (empty.message world.wording)]) :=
  process_of_plan_error (by rw [Plan.ofSettings, hmarkers, h]; rfl)

theorem run_plan (files : Option (Markers × Inclusion)) (notes : List Note) :
    ((settings.plan markers files).run world vars text).run.run notes =
      (match files with
        | none => pure (settings.filledIn markers vars text)
        | some (fileMarkers, inclusion) =>
          fileMarkers.fill (inclusion.noted world) (settings.filledIn markers vars text) :
        Noted InclusionError Text).run.run (notes ++ settings.notedIn markers vars text) := by
  have hpass : (markers.fill ((settings.plan markers files).lookup vars).noted text :
      Noted InclusionError Text).run.run notes =
      (.ok (settings.filledIn markers vars text), notes ++ settings.notedIn markers vars text) :=
    markers.fill_noted (settings.lookup markers vars) text notes
  rw [Plan.run, Settings.plan]
  exact run_bind_of_ok hpass

theorem process_without_files (hmarkers : settings.markers = .ok markers) :
    (process world settings false vars text).outcome =
      (.ok (settings.filledIn markers vars text), settings.notedIn markers vars text) := by
  have hplan : Plan.ofSettings world settings false = .ok (settings.plan markers none) := by
    rw [Plan.ofSettings, hmarkers]
    rfl
  exact process_of_run_ok hplan (run_plan none [])

theorem plan_with_files (world : World) (hmarkers : settings.markers = .ok markers)
    (hfiles : settings.fileMarkers = .ok fileMarkers) :
    Plan.ofSettings world settings true =
      .ok (settings.plan markers (some (fileMarkers, settings.inclusion world))) := by
  rw [Plan.ofSettings, hmarkers, hfiles]
  rfl

theorem process_with_files (hmarkers : settings.markers = .ok markers)
    (hfiles : settings.fileMarkers = .ok fileMarkers) {replies : List Text}
    (h : (settings.fileContents markers fileMarkers vars text).mapM
      ((settings.inclusion world).reply world) = .ok replies) :
    ∃ result, fileMarkers.fill ((settings.inclusion world).reply world)
        (settings.filledIn markers vars text) = .ok result ∧
      (process world settings true vars text).outcome =
        (.ok result, settings.notedIn markers vars text) := by
  refine ⟨fileMarkers.assemble (fileMarkers.segment (settings.filledIn markers vars text)) replies,
    ?_, process_of_run_ok (plan_with_files world hmarkers hfiles) ?_⟩
  · rw [Settings.fileContents] at h
    rw [Markers.fill_eq_assemble, h]
    rfl
  · rw [run_plan]
    exact Markers.fill_of_answers (Inclusion.answers_noted h _)

/-- A run ends with the first file that is not to be had. The spans behind it are not asked for. -/
theorem process_with_failure (hmarkers : settings.markers = .ok markers)
    (hfiles : settings.fileMarkers = .ok fileMarkers) {before after replies : List Text} {content : Text}
    {error : InclusionError}
    (hcontents : settings.fileContents markers fileMarkers vars text = before ++ content :: after)
    (hbefore : before.mapM ((settings.inclusion world).reply world) = .ok replies)
    (hcontent : (settings.inclusion world).reply world content = .error error) :
    ∃ noted, (fileMarkers.fill (Handler.recorded ((settings.inclusion world).noted world))
        (settings.filledIn markers vars text)).run.run (settings.notedIn markers vars text, []) =
        (.error error, (noted, before ++ [content])) ∧
      (process world settings true vars text).outcome =
        (.error (.inclusion error), noted ++ [.failure error.message]) := by
  have hfails := Inclusion.failsAt_noted hbefore hcontent (settings.notedIn markers vars text)
  refine ⟨_, Markers.fill_of_failsAt hcontents hfails.recorded,
    process_of_run_error (plan_with_files world hmarkers hfiles) ?_⟩
  rw [run_plan]
  exact Markers.fill_of_failsAt hcontents hfails

end

/-! ### How a run ends -/

namespace Settings

/-- A run ends with this error and these notes: with that of the markers around names of variables, or else
that of the markers around names of files, both before any span is asked for, or else that of the first span
of a file that is not answered, which is then the last that is asked for. -/
inductive FailsWith (settings : Settings) (world : World) (vars : Option Variables) (text : Text) :
    Bool → String → List Note → Prop
  | markers {withFiles : Bool} {empty : EmptyMarkers} : settings.markers = .error empty →
      settings.FailsWith world vars text withFiles (empty.message world.wording)
        [.failure (empty.message world.wording)]
  | fileMarkers {markers : Markers} {empty : EmptyMarkers} : settings.markers = .ok markers →
      settings.fileMarkers = .error empty →
      settings.FailsWith world vars text true (empty.message world.wording)
        [.failure (empty.message world.wording)]
  | file {markers fileMarkers : Markers} {before after : List Text} {content : Text}
      {error : InclusionError} {noted : List Note} : settings.markers = .ok markers →
      settings.fileMarkers = .ok fileMarkers →
      settings.fileContents markers fileMarkers vars text = before ++ content :: after →
      (∀ earlier ∈ before, ∃ reply, (settings.inclusion world).reply world earlier = .ok reply) →
      (settings.inclusion world).reply world content = .error error →
      (fileMarkers.fill (Handler.recorded ((settings.inclusion world).noted world))
          (settings.filledIn markers vars text)).run.run (settings.notedIn markers vars text, []) =
        (.error error, (noted, before ++ [content])) →
      settings.FailsWith world vars text true error.message (noted ++ [.failure error.message])

/-- A run ends with this text: with what the pass over the spans of variables leaves, or with what the pass
over the spans of files makes of that. -/
inductive EndsWith (settings : Settings) (world : World) (vars : Option Variables) (text : Text) :
    Bool → Text → Prop
  | filled {markers : Markers} : settings.markers = .ok markers →
      settings.EndsWith world vars text false (settings.filledIn markers vars text)
  | included {markers fileMarkers : Markers} {result : Text} : settings.markers = .ok markers →
      settings.fileMarkers = .ok fileMarkers →
      fileMarkers.fill ((settings.inclusion world).reply world)
        (settings.filledIn markers vars text) = .ok result →
      settings.EndsWith world vars text true result

/-- Something stands in the way of a run: a marker that is needed is empty, or a span of a file in what the
pass over the spans of variables leaves is not answered. -/
def Obstructed (settings : Settings) (world : World) (withFiles : Bool) (vars : Option Variables)
    (text : Text) : Prop :=
  settings.opening = [] ∨ settings.closing = [] ∨
    withFiles = true ∧ (settings.fileOpening = [] ∨ settings.fileClosing = []) ∨
    withFiles = true ∧ ∃ markers fileMarkers, settings.markers = .ok markers ∧
      settings.fileMarkers = .ok fileMarkers ∧
      ∃ content ∈ settings.fileContents markers fileMarkers vars text,
        ∃ error, (settings.inclusion world).reply world content = .error error

variable {world : World} {settings : Settings} {withFiles : Bool} {vars : Option Variables} {text result : Text}
  {message : String} {notes : List Note}

theorem FailsWith.obstructed (h : settings.FailsWith world vars text withFiles message notes) :
    settings.Obstructed world withFiles vars text := by
  cases h with
  | markers hempty =>
    have hside := Markers.exists_of?_eq_error_iff.1 ⟨_, hempty⟩
    exact hside.imp_right .inl
  | fileMarkers _ hempty =>
    have hside := Markers.exists_of?_eq_error_iff.1 ⟨_, hempty⟩
    exact .inr (.inr (.inl ⟨rfl, hside⟩))
  | file hmarkers hfiles hcontents _ hcontent _ =>
    exact .inr (.inr (.inr ⟨rfl, _, _, hmarkers, hfiles, _, by simp [hcontents], _, hcontent⟩))

theorem EndsWith.not_obstructed (h : settings.EndsWith world vars text withFiles result) :
    ¬ settings.Obstructed world withFiles vars text := by
  cases h with
  | filled hmarkers =>
    have hfilled := Markers.not_empty_of_of?_eq_ok hmarkers
    rintro (hopen | hclose | ⟨hfalse, -⟩ | ⟨hfalse, -⟩)
    · exact hfilled (.inl hopen)
    · exact hfilled (.inr hclose)
    · exact Bool.false_ne_true hfalse
    · exact Bool.false_ne_true hfalse
  | @included markers fileMarkers _ hmarkers hfiles hfill =>
    -- The markers that obstruct and those of the run are the same, so the same spans are asked for.
    have hfilled := Markers.not_empty_of_of?_eq_ok hmarkers
    have hfileFilled := Markers.not_empty_of_of?_eq_ok hfiles
    rw [Markers.fill_eq_assemble] at hfill
    rintro (hopen | hclose | ⟨-, hempty⟩ | ⟨-, markers', fileMarkers', hmarkers', hfiles', content,
      hmem, error, herror⟩)
    · exact hfilled (.inl hopen)
    · exact hfilled (.inr hclose)
    · exact hfileFilled hempty
    · obtain rfl := Except.ok.inj (hmarkers.symm.trans hmarkers')
      obtain rfl := Except.ok.inj (hfiles.symm.trans hfiles')
      cases hall : (settings.fileContents markers fileMarkers vars text).mapM
          ((settings.inclusion world).reply world) with
      | error other =>
        rw [fileContents] at hall
        simp [hall, bind, Except.bind] at hfill
      | ok replies =>
        obtain ⟨reply, hreply⟩ := ok_of_mapM_ok hall content hmem
        rw [hreply] at herror
        cases herror

end Settings

/-- A run always ends, either with a text or with an error. -/
theorem process_ends (world : World) (settings : Settings) (withFiles : Bool) (vars : Option Variables)
    (text : Text) :
    (∃ result notes, (process world settings withFiles vars text).outcome = (.ok result, notes) ∧
      settings.EndsWith world vars text withFiles result) ∨
    ∃ error notes, (process world settings withFiles vars text).outcome = (.error error, notes) ∧
      settings.FailsWith world vars text withFiles (error.message world.wording) notes := by
  cases hmarkers : settings.markers with
  | error empty => exact .inr ⟨_, _, process_of_markers_error hmarkers, .markers hmarkers⟩
  | ok markers =>
    cases withFiles with
    | false => exact .inl ⟨_, _, process_without_files hmarkers, .filled hmarkers⟩
    | true =>
      cases hfiles : settings.fileMarkers with
      | error empty =>
        exact .inr ⟨_, _, process_of_fileMarkers_error hmarkers hfiles, .fileMarkers hmarkers hfiles⟩
      | ok fileMarkers =>
        rcases mapM_ok_or_error ((settings.inclusion world).reply world)
          (settings.fileContents markers fileMarkers vars text) with
          ⟨replies, hall⟩ | ⟨before, content, after, replies, error, hcontents, hbefore, hcontent⟩
        · obtain ⟨result, hfill, hrun⟩ := process_with_files hmarkers hfiles hall
          exact .inl ⟨_, _, hrun, .included hmarkers hfiles hfill⟩
        · obtain ⟨noted, hcalls, hrun⟩ := process_with_failure hmarkers hfiles hcontents hbefore hcontent
          exact .inr ⟨_, _, hrun,
            .file hmarkers hfiles hcontents (ok_of_mapM_ok hbefore) hcontent hcalls⟩

theorem processed_eq (world : World) (settings : Settings) (withFiles : Bool) (vars : Option Variables)
    (text : Option Text) :
    (processed world settings withFiles vars text).1 =
      .ofOutcome world.wording (attempt world settings withFiles vars (text.getD [])).outcome.1 :=
  congrArg (Result.ofOutcome world.wording) (Noted.outcome_reporting _ _)

/-- A run never ends without a result. It fails exactly if a marker that is needed is empty or a span of a
file is not answered. It then leaves no text, and the error is that of the first of these causes. If it does
not fail, there is no error, and the text is what the passes leave. -/
theorem processed_exactly (world : World) (settings : Settings) (withFiles : Bool)
    (vars : Option Variables) (text : Option Text) :
    ∃ result notes, processed world settings withFiles vars text = (result, notes) ∧
      (result.success = false ↔ settings.Obstructed world withFiles vars (text.getD [])) ∧
      (result.success = false → result.text = [] ∧ ∃ message, result.error = some message ∧
        settings.FailsWith world vars (text.getD []) withFiles message notes) ∧
      (result.success = true → result.error = none ∧
        settings.EndsWith world vars (text.getD []) withFiles result.text) := by
  rcases process_ends world settings withFiles vars (text.getD []) with
    ⟨result, notes, hrun, hends⟩ | ⟨error, notes, hrun, hfails⟩
  · refine ⟨⟨result, none, true⟩, notes, by rw [processed, hrun]; rfl, ?_, by simp, fun _ => ⟨rfl, hends⟩⟩
    simpa using hends.not_obstructed
  · refine ⟨⟨[], some (error.message world.wording), false⟩, notes, by rw [processed, hrun]; rfl, ?_,
      fun _ => ⟨rfl, _, rfl, hfails⟩, by simp⟩
    simpa using hfails.obstructed

end Stencil
