import Stencil.CommandLine.Run
import Stencil.Proofs.CommandLine.Spelling
import Stencil.Proofs.Document.Reading
import Stencil.Proofs.Pipeline.Notes
import Stencil.Surroundings.Wording

/-!
The command line does what the library does. Variables come to it in two ways, as definitions and in a file,
and both are found to be the same mapping as the one that is written there, up to the order of its entries. A
run sees of its variables no more than what is found in them (`process_congr`), and the options of the command
line make the settings that they say. So the outcome of a run is that of `processed`, whichever way is taken
(`runs_agree`).
-/

namespace Stencil.CommandLine

/-! ### What is asked for -/

/-- The options that say how a text is filled. -/
structure Options where
  enableDefault : Bool := false
  separator : Option Text := none
  opening : Option Text := none
  closing : Option Text := none
  withFiles : Bool := false
  deriving DecidableEq, Repr

/-- The settings with exactly the options that are given over them. -/
def Options.over (options : Options) (settings : Settings) : Settings :=
  { settings with
    enableDefault := if options.enableDefault then true else settings.enableDefault
    separator := options.separator.getD settings.separator
    opening := options.opening.getD settings.opening
    closing := options.closing.getD settings.closing }

/-- The invocation with these options, possibly a text, definitions, and possibly a file of variables. -/
def Options.invocation (options : Options) (text : Option Text) (definitions : List Text)
    (file : Option Text) : Invocation where
  text := text.map .text
  definitions := definitions.map .text
  variableFile := file.map .text
  enableDefault := options.enableDefault
  separator := options.separator.map .text
  opening := options.opening.map .text
  closing := options.closing.map .text
  withFiles := options.withFiles

/-- A text comes to a run as it is given, or else as the input brings it. -/
inductive Supplies (text : Text) : Option Text → Input → Prop
  | given {input : Input} : Supplies text (some text) input
  | piped : Supplies text none (.piped text)

def defining (entry : Text × Text) : Text :=
  entry.1 ++ '=' :: entry.2

def texts (entries : List (Text × Text)) : Variables :=
  entries.map fun (name, value) => (name, .text value)

/-! ### Definitions -/

theorem definition_defining {entry : Text × Text} (hname : entry.1 ≠ []) (hsign : '=' ∉ entry.1) :
    definition (defining entry) = .ok (entry.1, .text entry.2) := by
  obtain ⟨name, value⟩ := entry
  obtain ⟨c, name, rfl⟩ := List.exists_cons_of_ne_nil hname
  rw [definition, defining, Text.cut?_singleton hsign]

theorem definitions_defining {entries : List (Text × Text)}
    (h : ∀ entry ∈ entries, entry.1 ≠ [] ∧ '=' ∉ entry.1) :
    definitions ((entries.map defining).map .text) = .ok (Mapping.ofPairs (texts entries)) := by
  rw [definitions, List.map_map, List.mapM_map, mapM_eq_ok_map]
  · rfl
  · exact fun entry hentry => definition_defining (h entry hentry).1 (h entry hentry).2

/-! ### Variables -/

variable {world : World} {settings : Settings} {userFile : Path} {input : Input} {options : Options}
  {given : Option Text} {entries pairs : List (Text × Text)} {invocation : Invocation} {text : Text}

theorem collect_of_fileVariables {vars defined : Variables} (hlooks : invocation.noVariables = false)
    (hfile : (fileVariables world userFile invocation.variableFile).run.run [] = (.ok vars, []))
    (hdefined : definitions invocation.definitions = .ok defined) :
    (collect world userFile invocation).run.run [] = (.ok (some (vars.insertAll defined)), []) := by
  simp only [collect, hlooks, hdefined]
  exact run_bind_of_ok hfile

theorem fileVariables_missing (huser : world.files.visit world.directory userFile = .error .missing) :
    (fileVariables world userFile none).run.run [] = (.ok [], []) := by
  rw [fileVariables, VariableFile.exists?, huser]
  rfl

theorem fileVariables_named {file : Text} {bytes : Utf8.Bytes} {vars : Variables}
    (hfile : world.files.opened? world.directory (Path.ofText file) = some (.file bytes))
    (hvars : VariableFile.ofBytes (Path.ofText file) bytes = .ok vars) :
    (fileVariables world userFile (some (.text file))).run.run [] = (.ok vars, []) := by
  simp only [fileVariables, VariableFile.exists?_of_opened? hfile]
  rw [Noted.run_adapt, VariableFile.load_of_file hfile hvars]
  rfl

/-! ### Runs -/

/-- The outcome that shows a result. -/
def Outcome.ofResult (wording : Wording) (result : Result) : Outcome :=
  match result.error with
  | none => ⟨0, result.text, ""⟩
  | some message => .failed 1 (complaint wording message)

theorem override_invocation (options : Options) (given : Option Text) (definitions : List Text)
    (file : Option Text) (settings : Settings) :
    (options.invocation given definitions file).override settings = options.over settings := by
  obtain ⟨enableDefault, separator, opening, closing, withFiles⟩ := options
  cases enableDefault <;> cases separator <;> cases opening <;> cases closing <;> rfl

theorem attempt_invocation (options : Options) (given : Option Text) (definitions : List Text)
    (file : Option Text) (vars : Option Variables) (text : Text) :
    (options.invocation given definitions file).attempt world settings vars text =
      (Stencil.attempt world (options.over settings) options.withFiles vars text).adapt .run := by
  have hmarkers : (options.invocation given definitions file).lacksMarker = false := by
    obtain ⟨enableDefault, separator, opening, closing, withFiles⟩ := options
    cases opening <;> cases closing <;> rfl
  have hseparator : (options.invocation given definitions file).lacksSeparator world
      (options.over settings) vars text = false := by
    obtain ⟨enableDefault, separator, opening, closing, withFiles⟩ := options
    cases separator <;> simp [Invocation.lacksSeparator, Options.invocation]
  rw [Invocation.attempt, override_invocation, hmarkers, hseparator]
  rfl

theorem Invocation.onlyAdds_attempt (invocation : Invocation) (world : World) (settings : Settings)
    (vars : Option Variables) (text : Text) :
    OnlyAdds (invocation.attempt world settings vars text).run := by
  rw [Invocation.attempt]
  split_ifs
  · exact Noted.onlyAdds_throw _
  · exact Noted.onlyAdds_throw _
  · exact Noted.onlyAdds_adapt (Stencil.onlyAdds_attempt world _ _ vars text) _

/-- Once the variables are collected, a run ends as its attempt does, unless a half of a pair is left in the text. -/
theorem fill_of_collected {vars : Option Variables} {notes : List Note}
    (h : (collect world userFile invocation).run.run [] = (.ok vars, notes)) :
    (fill world settings userFile invocation text).outcome.1 =
      match (invocation.attempt world settings vars text).outcome.1 with
      | .error error => .ok (.failed 1 (complaint world.wording (error.message world.wording)))
      | .ok result =>
        if invocation.leavesHalf world settings vars text result then .error .unwritable
        else .ok ⟨0, result, ""⟩ := by
  have hcaught := Noted.run_caught (δ := SetupError) (collect world userFile invocation) []
  rw [h] at hcaught
  have hattempted : (((invocation.attempt world settings vars text).reporting
      (FillError.message world.wording)).run.run notes).1 =
      (invocation.attempt world settings vars text).outcome.1 := by
    rw [Noted.run_of_onlyAdds (Noted.onlyAdds_reporting (invocation.onlyAdds_attempt world settings vars text) _)]
    exact Noted.outcome_reporting _ _
  rw [Noted.outcome, fill, run_bind_of_ok hcaught, run_bind_of_ok (Noted.run_caught _ _), hattempted]
  cases (invocation.attempt world settings vars text).outcome.1 with
  | error error => rfl
  | ok result =>
    simp only
    cases invocation.leavesHalf world settings vars text result <;> rfl

/-- Where no value is torn, no half of a pair is left in the text of a run. -/
theorem leavesHalf_of_whole {vars : Variables} (hwhole : ∀ entry ∈ vars, entry.2.doubled = entry.2) {result : Text}
    (h : (invocation.attempt world settings (some vars) text).outcome.1 = .ok result) :
    invocation.leavesHalf world settings (some vars) text result = false := by
  have hdoubled : vars.map (Prod.map id Value.doubled) = vars := by
    nth_rewrite 2 [← vars.map_id]
    exact List.map_congr_left fun entry hentry => Prod.ext rfl (hwhole entry hentry)
  simp only [Invocation.leavesHalf, Option.map_some, hdoubled, h]
  exact decide_eq_false (by simp [Except.toOption])

/-- With such variables, a run with a value for every switch shows the result of its passes. -/
theorem fill_of_collect {definitions : List Text} {file : Option Text} {vars : Variables}
    (h : (collect world userFile (options.invocation given definitions file)).run.run [] = (.ok (some vars), []))
    (hwhole : ∀ entry ∈ vars, entry.2.doubled = entry.2) (text : Text) :
    (fill world settings userFile (options.invocation given definitions file) text).outcome.1 =
      .ok (.ofResult world.wording
        (processed world (options.over settings) options.withFiles (some vars) (some text)).1) := by
  have hended : ((options.invocation given definitions file).attempt world settings (some vars) text).outcome.1 =
      (Stencil.attempt world (options.over settings) options.withFiles (some vars) text).outcome.1.mapError
        .run := by
    rw [attempt_invocation, Noted.outcome_adapt]
  rw [fill_of_collected h, processed_eq, Option.getD_some]
  cases hrun : (Stencil.attempt world (options.over settings) options.withFiles (some vars) text).outcome.1 with
  | error error =>
    rw [hended, hrun]
    rfl
  | ok result =>
    rw [hrun] at hended
    rw [hended]
    exact if_neg (by simp [leavesHalf_of_whole hwhole hended])

theorem invoke_of_supplies (h : Supplies text given input) (definitions : List Text)
    (file : Option Text) :
    invoke world settings userFile input (options.invocation given definitions file) =
      fill world settings userFile (options.invocation given definitions file) text := by
  cases h <;>
  · rw [invoke, if_neg (by simp [Options.invocation])]
    rfl

/-! ### Agreement -/

/-- A run comes to a result: it ends with the text of the result on standard output, or it fails as the result
does. -/
def Shows (run : Noted SetupError Outcome) (result : Result) : Prop :=
  ∃ outcome, run.outcome.1 = .ok outcome ∧
    (result.success = true → outcome.code = 0 ∧ outcome.output = result.text) ∧
    (result.success = false → outcome.code = 1)

/-- What an invocation asks for comes to a result, by whatever words it is asked for. It can be asked for, unless
two dashes are a value in it. -/
structure Agrees (world : World) (settings : Settings) (userFile : Path) (input : Input)
    (invocation : Invocation) (result : Result) : Prop where
  invoked : Shows (invoke world settings userFile input invocation) result
  asked : ∀ words, parse words = .ok (.run invocation) →
    Shows (run world settings userFile input words) result
  spelled : .text ['-', '-'] ∉ invocation.arguments → parse invocation.spelled = .ok (.run invocation)

theorem Agrees.of_invoke {result : Result}
    (h : Shows (invoke world settings userFile input invocation) result) :
    Agrees world settings userFile input invocation result where
  invoked := h
  asked words hwords := by
    rw [run, hwords]
    exact h
  spelled := Invocation.parse_spelled

theorem shows_processed {computation : Noted SetupError Outcome} {withFiles : Bool}
    {vars : Option Variables}
    (h : computation.outcome.1 = .ok (.ofResult world.wording
      (processed world settings withFiles vars (some text)).1)) :
    Shows computation (processed world settings withFiles vars (some text)).1 := by
  refine ⟨_, h, ?_⟩
  simp only [processed]
  cases (process world settings withFiles vars ((some text).getD [])).outcome.1 with
  | ok result => exact ⟨fun _ => ⟨rfl, rfl⟩, fun hfailed => Bool.noConfusion hfailed⟩
  | error error => exact ⟨fun hdone => Bool.noConfusion hdone, fun _ => rfl⟩

/-- An invocation comes to the result for all variables in which the same is found as in those collected. -/
theorem agrees_of_collect {definitions : List Text} {file : Option Text} {vars others : Variables}
    (hsupplies : Supplies text given input)
    (hcollect : (collect world userFile (options.invocation given definitions file)).run.run [] =
      (.ok (some vars), []))
    (hwhole : ∀ entry ∈ vars, entry.2.doubled = entry.2) (hsame : ∀ key, vars.get? key = others.get? key) :
    Agrees world settings userFile input (options.invocation given definitions file)
      (processed world (options.over settings) options.withFiles (some others) (some text)).1 := by
  have hprocessed : processed world (options.over settings) options.withFiles (some vars) (some text) =
      processed world (options.over settings) options.withFiles (some others) (some text) := by
    rw [processed, processed, process_congr world _ _ _ hsame]
  refine .of_invoke (shows_processed ?_)
  rw [invoke_of_supplies hsupplies, ← hprocessed]
  exact fill_of_collect hcollect hwhole text

theorem get?_texts (entries : List (Text × Text)) (key : Text) :
    (texts entries).get? key = (Mapping.get? key entries).map Value.text :=
  Mapping.get?_map Value.text entries key

theorem doubled_of_mem_texts {entry : Text × Value} (h : entry ∈ texts entries) : entry.2.doubled = entry.2 := by
  obtain ⟨pair, -, rfl⟩ := List.mem_map.1 h
  rfl

theorem keys_texts (entries : List (Text × Text)) :
    (texts entries).map Prod.fst = entries.map Prod.fst := by
  rw [texts, List.map_map]
  rfl

/-- The definitions of a mapping and a file that holds it lead to the result that the mapping has in the library,
in whatever order its entries come. -/
theorem runs_agree (world : World) (settings : Settings) (userFile : Path) (options : Options)
    (text : Text) (entries : Mapping Text) (hdistinct : (entries.map Prod.fst).Nodup)
    (hnames : ∀ entry ∈ entries, entry.1 ≠ [] ∧ '=' ∉ entry.1)
    (huser : world.files.visit world.directory userFile = .error .missing)
    (given : Option Text) (input : Input) (hsupplies : Supplies text given input)
    (pairs : List (Text × Text)) (hpairs : pairs.Perm entries) :
    let result := (processed world (options.over settings) options.withFiles (some (texts entries))
      (some text)).1
    Agrees world settings userFile input (options.invocation given (pairs.map defining) none) result ∧
      ∀ file rendering, Document.Renders Document.WritesString (texts pairs) rendering →
        world.files.opened? world.directory (Path.ofText file) = some (.file (Utf8.encode rendering)) →
        Agrees world settings userFile input (options.invocation given [] (some file)) result := by
  have hkeys : ((texts entries).map Prod.fst).Nodup := by rwa [keys_texts]
  have htexts : (texts pairs).Perm (texts entries) := hpairs.map _
  have hsame (key : Text) : (Mapping.ofPairs (texts pairs)).get? key = (texts entries).get? key :=
    Mapping.get?_ofPairs_perm htexts hkeys key
  refine ⟨agrees_of_collect hsupplies (collect_of_fileVariables rfl (fileVariables_missing huser)
    (definitions_defining fun entry hentry => hnames entry (hpairs.subset hentry))) ?_ fun key => ?_,
    fun file rendering hrendering hfile => ?_⟩
  · exact fun entry hentry =>
      doubled_of_mem_texts (Mapping.mem_of_mem_ofPairs (Mapping.mem_of_mem_ofPairs hentry))
  · -- The definitions are put over the variables of a file that is not there.
    rw [Mapping.get?_insertAll_ofPairs, hsame]
    simp
  · have hbytes := VariableFile.ofBytes_encode Document.legible_writesString hrendering (Path.ofText file)
    refine agrees_of_collect hsupplies (collect_of_fileVariables rfl (fileVariables_named hfile hbytes)
      rfl) (fun entry hentry => ?_) fun key => ?_
    · obtain ⟨member, -, rfl⟩ := List.mem_map.1 hentry
      rfl
    · -- A text is shown as itself, so what the file holds is what was written.
      have hshown := Mapping.get?_map (fun value : Value => Value.text value.display)
        (Mapping.ofPairs (texts pairs)) key
      rw [hsame, get?_texts, Option.map_map] at hshown
      rw [get?_texts]
      exact hshown

def kept : Mapping Text :=
  [("a".toList, "😀".toList), ("b".toList, "é=\"\n".toList)]

def stored : Text :=
  "\x7b\r\n \"b\": \"\\u00e9=\\\"\\n\",\r\"\\u0061\" :\"\\uD83d\\uDe00\" \x7d\n".toList

def desk : World where
  files := FileSystem.empty.write ["w".toList, "vars".toList] (Utf8.encode stored)
  directory := ⟨.single, ["w".toList]⟩
  home := "/w".toList
  users := []
  wording := .standard fun _ => ""

def angled : Options where
  enableDefault := true
  separator := some "??".toList
  opening := some "<".toList
  closing := some ">".toList

theorem renders_stored : Document.Renders Document.WritesString (texts kept.reverse) stored := by
  refine ⟨[['{'], "\"b\"".toList, [':'], "\"\\u00e9=\\\"\\n\"".toList, [','],
    "\"\\u0061\"".toList, [':'], "\"\\uD83d\\uDe00\"".toList, ['}']],
    .full (.cons ?_ (.string ?_) (.last ?_ (.string ?_))), ?_⟩
  · exact .quoted (.cons (.bare (by decide) (by decide) (by decide)) .nil)
  · exact .quoted (.cons (.single (by decide) (.digits (by decide) (by decide) (by decide) (by decide)))
      (.cons (.bare (by decide) (by decide) (by decide)) (.cons (.short (by decide))
        (.cons (.short (by decide : ('n', '\n') ∈ Document.shortEscapes)) .nil))))
  · exact .quoted
      (.cons (.single (by decide) (.digits (by decide) (by decide) (by decide) (by decide))) .nil)
  · exact .quoted (.cons (.pair (by decide) (.digits (by decide) (by decide) (by decide) (by decide))
      (.digits (by decide) (by decide) (by decide) (by decide))) .nil)
  · have hnone : Document.IsWidth [] := by decide
    have hone : Document.IsWidth " ".toList := by decide
    exact .cons hnone (.cons (by decide : Document.IsWidth "\r\n ".toList) (.cons hnone (.cons hone
      (.cons hnone (.cons (by decide : Document.IsWidth "\r".toList) (.cons hone (.cons hnone
        (.cons hone (.nil (by decide : Document.IsWidth "\n".toList))))))))))

/-- Values with equals signs, quotes, line feeds and characters of all sizes come through both ways. -/
theorem runs_agree_desk :
    (kept.map Prod.fst).Nodup ∧ (∀ entry ∈ kept, entry.1 ≠ [] ∧ '=' ∉ entry.1) ∧
      desk.files.visit desk.directory (Path.ofText "own".toList) = .error .missing ∧
      Supplies "<a>,<b>,<c??d>,\\<a>".toList none (.piped "<a>,<b>,<c??d>,\\<a>".toList) ∧
      kept.reverse.Perm kept ∧
      Document.Renders Document.WritesString (texts kept.reverse) stored ∧
      desk.files.opened? desk.directory (Path.ofText "vars".toList) = some (.file (Utf8.encode stored)) ∧
      Agrees desk {} (Path.ofText "own".toList) (.piped "<a>,<b>,<c??d>,\\<a>".toList)
        (angled.invocation none ["b=é=\"\n".toList, "a=😀".toList] none)
        ⟨"😀,é=\"\n,d,<a>".toList, none, true⟩ ∧
      Agrees desk {} (Path.ofText "own".toList) (.piped "<a>,<b>,<c??d>,\\<a>".toList)
        (angled.invocation none [] (some "vars".toList))
        ⟨"😀,é=\"\n,d,<a>".toList, none, true⟩ := by
  have hdistinct : (kept.map Prod.fst).Nodup := by decide
  have hnames : ∀ entry ∈ kept, entry.1 ≠ [] ∧ '=' ∉ entry.1 := by decide
  have huser : desk.files.visit desk.directory (Path.ofText "own".toList) = .error .missing := rfl
  have hfile : desk.files.opened? desk.directory (Path.ofText "vars".toList) =
      some (.file (Utf8.encode stored)) := rfl
  have hsupplies : Supplies "<a>,<b>,<c??d>,\\<a>".toList none (.piped "<a>,<b>,<c??d>,\\<a>".toList) :=
    .piped
  have hresult : (processed desk (angled.over {}) angled.withFiles (some (texts kept))
      (some "<a>,<b>,<c??d>,\\<a>".toList)).1 = ⟨"😀,é=\"\n,d,<a>".toList, none, true⟩ := by
    decide +kernel
  obtain ⟨hdefined, hloaded⟩ := runs_agree desk {} (Path.ofText "own".toList) angled
    "<a>,<b>,<c??d>,\\<a>".toList kept hdistinct hnames huser none _ hsupplies kept.reverse
    kept.reverse_perm
  rw [hresult] at hdefined hloaded
  exact ⟨hdistinct, hnames, huser, hsupplies, kept.reverse_perm, renders_stored, hfile, hdefined,
    hloaded "vars".toList stored renders_stored hfile⟩

end Stencil.CommandLine
