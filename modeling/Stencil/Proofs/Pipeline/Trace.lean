import Stencil.Proofs.Inclusion.Checking
import Stencil.Proofs.Lookup.Asking
import Stencil.Proofs.Pipeline.Failure

/-!
What is heard of a run. A reader of the notes wants to tell from them what became of the text: one line for each
span that asked for a variable in vain, in the order of the spans, and at the end the reason if the run failed. That
there is nothing else, and nothing twice, is said by `Settings.Says`, which is written without a look at how notes
are taken (`runHeard_exactly`). Whether anybody listens is up to the settings of the application and changes nothing
else, even if the run is made under these very settings.

A run that fails at a span of a file says so twice, once for the file and once for the run. There is one failure that
is not about a file, the one of a content that asks for the home of a user with a NUL in its name. It is found where
no note is taken, and all that is heard of it is that the run has failed (`runHeard_nul`).
-/

namespace Stencil

/-- A run of a text under settings of its own, or else under those of the application, and the lines that are heard
of it. Whether it is to be quiet is asked of the application. -/
def runHeard (application : Settings) (own : Option Settings) (world : World) (withFiles : Bool)
    (vars : Option Variables) (text : Option Text) : Result × List String :=
  let (result, notes) := processed world (own.getD application) withFiles vars text
  (result, (Note.heard application.quiet notes).map Note.message)

namespace Settings

/-- A content asks for a variable in vain: none has it for a name and, with defaults enabled, it holds no
separator. -/
def AsksInVain (settings : Settings) (vars : Variables) (content : Text) : Prop :=
  vars.get? content = none ∧ (settings.enableDefault = true → ¬ settings.separator <:+: content)

instance (settings : Settings) (vars : Variables) (content : Text) :
    Decidable (settings.AsksInVain vars content) :=
  inferInstanceAs (Decidable (_ ∧ _))

/-- One line for each span that asks for a variable in vain. Without variables no span asks. -/
def vainLines (settings : Settings) (markers : Markers) (text : Text) : Option Variables → List String
  | none => []
  | some vars =>
    ((markers.contents (markers.segment text)).filter fun content => settings.AsksInVain vars content).map
      fun content => "Variable not found: " ++ String.ofList content

/-- A run says these lines. If a marker that is needed is empty, they are one line. Otherwise they are those of the
spans that ask in vain and, if a span of a file is not answered, what is said of the first such span and that the run
has failed for that reason. -/
inductive Says (settings : Settings) (world : World) (vars : Option Variables) (text : Text) :
    Bool → List String → Prop
  | markers {withFiles : Bool} {empty : EmptyMarkers} : settings.markers = .error empty →
      settings.Says world vars text withFiles ["Error processing input: " ++ empty.message world.wording]
  | fileMarkers {markers : Markers} {empty : EmptyMarkers} : settings.markers = .ok markers →
      settings.fileMarkers = .error empty →
      settings.Says world vars text true ["Error processing input: " ++ empty.message world.wording]
  | filled {markers : Markers} : settings.markers = .ok markers →
      settings.Says world vars text false (settings.vainLines markers text vars)
  | included {markers fileMarkers : Markers} : settings.markers = .ok markers →
      settings.fileMarkers = .ok fileMarkers →
      (∀ content ∈ settings.fileContents markers fileMarkers vars text,
        ∃ reply, (settings.inclusion world).reply world content = .ok reply) →
      settings.Says world vars text true (settings.vainLines markers text vars)
  | file {markers fileMarkers : Markers} {before after : List Text} {content : Text}
      {error : InclusionError} : settings.markers = .ok markers → settings.fileMarkers = .ok fileMarkers →
      settings.fileContents markers fileMarkers vars text = before ++ content :: after →
      (∀ earlier ∈ before, ∃ reply, (settings.inclusion world).reply world earlier = .ok reply) →
      (settings.inclusion world).reply world content = .error error → error.namesFile = true →
      settings.Says world vars text true (settings.vainLines markers text vars ++
        [error.message, "Error processing input: " ++ error.message])
  | noFile {markers fileMarkers : Markers} {before after : List Text} {content : Text}
      {error : InclusionError} : settings.markers = .ok markers → settings.fileMarkers = .ok fileMarkers →
      settings.fileContents markers fileMarkers vars text = before ++ content :: after →
      (∀ earlier ∈ before, ∃ reply, (settings.inclusion world).reply world earlier = .ok reply) →
      (settings.inclusion world).reply world content = .error error → error.namesFile = false →
      settings.Says world vars text true (settings.vainLines markers text vars ++
        ["Error processing input: " ++ error.message])

variable {settings : Settings} {world : World} {vars : Option Variables} {text : Text} {withFiles : Bool}
  {markers fileMarkers : Markers}

theorem messages_notedIn (settings : Settings) (markers : Markers) (vars : Option Variables) (text : Text) :
    (settings.notedIn markers vars text).map Note.message = settings.vainLines markers text vars := by
  rw [notedIn, Lookup.notesOn, List.map_map]
  cases vars with
  | none =>
    have hnone : (settings.lookup markers none).isUnknown = fun _ => false := rfl
    rw [hnone, List.filter_false]
    rfl
  | some vars =>
    have hunknown : (settings.lookup markers (some vars)).isUnknown =
        fun content => decide (settings.AsksInVain vars content) := by
      funext content
      rw [Bool.eq_iff_iff, decide_eq_true_iff]
      have hvain : ((settings.lookup markers none).withVars vars).isUnknown content = true ↔ _ :=
        Lookup.isUnknown_withVars_iff
      exact hvain
    rw [hunknown]
    rfl

end Settings

/-! ### The notes of a run -/

section

variable {world : World} {settings : Settings} {vars : Option Variables} {text : Text}
  {markers fileMarkers : Markers}

theorem exists_mapM_eq_ok {α β ε : Type} {f : α → Except ε β} {members : List α}
    (h : ∀ member ∈ members, ∃ answer, f member = .ok answer) :
    ∃ answers, members.mapM f = .ok answers := by
  rcases mapM_ok_or_error f members with hall | ⟨before, member, after, -, error, rfl, -, herror⟩
  · exact hall
  · obtain ⟨answer, hanswer⟩ := h member (List.mem_append_right _ List.mem_cons_self)
    exact absurd (herror.symm.trans hanswer) (by simp)

/-- A run that ends with the first file that is not to be had notes the spans of variables without an answer, the
file, and that it has failed. -/
theorem outcome_of_first_failure (hmarkers : settings.markers = .ok markers)
    (hfiles : settings.fileMarkers = .ok fileMarkers) {before after replies : List Text} {content : Text}
    {error : InclusionError}
    (hcontents : settings.fileContents markers fileMarkers vars text = before ++ content :: after)
    (hbefore : before.mapM ((settings.inclusion world).reply world) = .ok replies)
    (hcontent : (settings.inclusion world).reply world content = .error error) :
    (process world settings true vars text).outcome =
      (.error (.inclusion error), settings.notedIn markers vars text ++ Inclusion.noteOn error ++
        [.failure error.message]) := by
  have hfails := Inclusion.failsAt_noted hbefore hcontent (settings.notedIn markers vars text)
  refine process_of_run_error (plan_with_files world hmarkers hfiles) ?_
  rw [run_plan]
  exact Markers.fill_of_failsAt hcontents hfails

/-- What a run says is what it notes. -/
theorem Settings.Says.eq_messages {withFiles : Bool} {lines : List String}
    (h : settings.Says world vars text withFiles lines) :
    lines = (process world settings withFiles vars text).outcome.2.map Note.message := by
  cases h with
  | markers hempty =>
    rw [process_of_markers_error hempty]
    rfl
  | fileMarkers hmarkers hempty =>
    rw [process_of_fileMarkers_error hmarkers hempty]
    rfl
  | filled hmarkers => rw [process_without_files hmarkers, messages_notedIn]
  | included hmarkers hfiles hall =>
    obtain ⟨replies, hreplies⟩ := exists_mapM_eq_ok hall
    obtain ⟨result, -, hrun⟩ := process_with_files hmarkers hfiles hreplies
    rw [hrun, messages_notedIn]
  | file hmarkers hfiles hcontents hbefore hcontent hnames =>
    obtain ⟨replies, hreplies⟩ := exists_mapM_eq_ok hbefore
    rw [outcome_of_first_failure hmarkers hfiles hcontents hreplies hcontent, Inclusion.noteOn, if_pos hnames,
      List.map_append, List.map_append, messages_notedIn, List.append_assoc]
    rfl
  | noFile hmarkers hfiles hcontents hbefore hcontent hnames =>
    obtain ⟨replies, hreplies⟩ := exists_mapM_eq_ok hbefore
    rw [outcome_of_first_failure hmarkers hfiles hcontents hreplies hcontent, Inclusion.noteOn,
      if_neg (by simp [hnames]), List.append_nil, List.map_append, messages_notedIn]
    rfl

theorem Settings.exists_lines (settings : Settings) (world : World) (vars : Option Variables) (text : Text)
    (withFiles : Bool) : ∃ lines, settings.Says world vars text withFiles lines := by
  cases hmarkers : settings.markers with
  | error empty => exact ⟨_, .markers hmarkers⟩
  | ok markers =>
    cases withFiles with
    | false => exact ⟨_, .filled hmarkers⟩
    | true =>
      cases hfiles : settings.fileMarkers with
      | error empty => exact ⟨_, .fileMarkers hmarkers hfiles⟩
      | ok fileMarkers =>
        rcases mapM_ok_or_error ((settings.inclusion world).reply world)
          (settings.fileContents markers fileMarkers vars text) with
          ⟨replies, hall⟩ | ⟨before, content, after, replies, error, hcontents, hbefore, hcontent⟩
        · exact ⟨_, .included hmarkers hfiles (ok_of_mapM_ok hall)⟩
        · cases hnames : error.namesFile with
          | true => exact ⟨_, .file hmarkers hfiles hcontents (ok_of_mapM_ok hbefore) hcontent hnames⟩
          | false => exact ⟨_, .noFile hmarkers hfiles hcontents (ok_of_mapM_ok hbefore) hcontent hnames⟩

end

theorem Inclusion.namesFile_eq_false_iff {inclusion : Inclusion} {world : World} {content : Text}
    {error : InclusionError} (h : inclusion.reply world content = .error error) :
    error.namesFile = false ↔ World.AsksForNul (content.trim Blank.isBlank) := by
  constructor
  · intro hnames
    cases hplace : world.placeOf content with
    | error other => exact (World.placeOf_eq_error_iff.1 hplace).2
    | ok path =>
      rw [reply_of_placeOf hplace, readFile_eq_iff] at h
      cases h <;> simp [InclusionError.namesFile] at hnames
  · intro hasks
    have hplace : world.placeOf content = .error .nulInUserName := World.placeOf_eq_error_iff.2 ⟨rfl, hasks⟩
    have hnul : inclusion.reply world content = _ := reply_of_placeOf_error hplace
    rw [← Except.error.inj (hnul.symm.trans h)]
    rfl

/-- When it is not to be quiet, exactly the lines of a run are heard, in their order. When it is, nothing is heard,
and the result is the same. -/
theorem runHeard_exactly (application : Settings) (own : Option Settings) (world : World) (withFiles : Bool)
    (vars : Option Variables) (text : Option Text) :
    let loud := { application with quiet := false }
    let quiet := { application with quiet := true }
    (∀ lines, (own.getD loud).Says world vars (text.getD []) withFiles lines ↔
      lines = (runHeard loud own world withFiles vars text).2) ∧
    (∀ content error, ((own.getD loud).inclusion world).reply world content = .error error →
      (error.namesFile = false ↔ World.AsksForNul (content.trim Blank.isBlank))) ∧
    (runHeard quiet own world withFiles vars text).2 = [] ∧
    (runHeard quiet own world withFiles vars text).1 = (runHeard loud own world withFiles vars text).1 := by
  intro loud quiet
  refine ⟨fun lines => ?_, fun content error => Inclusion.namesFile_eq_false_iff, rfl, ?_⟩
  · constructor
    · intro hlines
      exact hlines.eq_messages
    · rintro rfl
      obtain ⟨lines, hlines⟩ := (own.getD loud).exists_lines world vars (text.getD []) withFiles
      rw [hlines.eq_messages] at hlines
      exact hlines
  · -- The run does not look at whether it is to be quiet, also where the settings are its own.
    cases own <;> rfl

/-- A content that asks for a user whose name is a NUL fails a run without a line of its own. -/
theorem runHeard_nul :
    let run := runHeard {} none workplace true (some []) (some "$\x7bx\x7d%\x7b~\x00\x7d".toList)
    World.AsksForNul (Text.trim Blank.isBlank "~\x00".toList) ∧
      run = (⟨[], some "embedded null byte", false⟩,
        ["Variable not found: x", "Error processing input: embedded null byte"]) ∧
      run.2 ≠ ["Variable not found: x"] ∧
      ∀ line, run.2 ≠ ["Variable not found: x", line, "Error processing input: " ++ line] := by
  intro run
  have hrun : run = (⟨[], some "embedded null byte", false⟩,
      ["Variable not found: x", "Error processing input: embedded null byte"]) := by
    decide +kernel
  refine ⟨⟨[], [], by decide, List.not_mem_nil⟩, hrun, ?_, ?_⟩
  · rw [hrun]
    decide
  · intro line hline
    rw [hrun] at hline
    have hlength := congrArg List.length hline
    exact absurd hlength (by simp)

end Stencil
