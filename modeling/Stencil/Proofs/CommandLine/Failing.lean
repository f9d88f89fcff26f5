import Stencil.Proofs.CommandLine.Collecting
import Stencil.Proofs.CommandLine.Output
import Stencil.Proofs.Document.Acceptance

/-!
What can be wrong with a file of variables, and what comes of it. That there is no such file is no fault. Whatever is
wrong with one that is there is found when it is opened and read, and told as an error that a run reports. So it would
be for every path, if there were not the test whether the file is there. For a path that is too long to be asked for,
or that leads through a directory that may not be searched, the test itself fails, and its failure goes past everything
that is there to report it (`load_too_long`). These are the only errors that do, apart from switches that
lack their value (`load_exactly`).

A file that may be read gives variables exactly if it is a document that is one object (`Document.IsObjectDocument`).
The ends of its lines do not matter.
-/

namespace Stencil

namespace FileSystem

/-! ### Paths that cannot be asked for -/

variable {files : FileSystem} {start place names : List Text} {name : Text} {directory path : Path}
  {absence : Absence}

/-- A name among names that are followed is looked up at a place, to which the names before it lead. -/
def Asks (files : FileSystem) (start names place : List Text) (name : Text) : Prop :=
  ∃ before after, names = before ++ name :: after ∧ files.follow start before = .ok place

/-- A path is too long to be asked for: as a whole, or for one name in it that is looked up in a directory. What holds
the character that ends a path is not asked for in the first place. -/
def IsTooLong (files : FileSystem) (directory path : Path) : Prop :=
  (∀ name ∈ path.names, '\x00' ∉ name) ∧
    (maxPath < path.text.byteCount ∨
      ∃ place name, files.Asks (origin directory path) path.names place name ∧
        files.item place = some .directory ∧ files.searchable place = true ∧
        name ≠ Path.above ∧ maxName < name.byteCount)

/-- A path leads through a directory that may not be searched. A path without a name leads to the directory that it
begins at, and is looked up in it all the same. -/
def IsForbidden (files : FileSystem) (directory path : Path) : Prop :=
  (∀ name ∈ path.names, '\x00' ∉ name) ∧ path.text.byteCount ≤ maxPath ∧
    ∃ place, files.isClosed place = true ∧
      (path = ⟨.none, []⟩ ∧ place = origin directory path ∨
        ∃ name, files.Asks (origin directory path) path.names place name)

theorem lookUp_eq_nameTooLong_iff :
    files.lookUp place name = .error .nameTooLong ↔
      files.item place = some .directory ∧ files.searchable place = true ∧
        name ≠ Path.above ∧ maxName < name.byteCount := by
  unfold lookUp
  split_ifs <;> simp_all

theorem lookUp_eq_forbidden_iff :
    files.lookUp place name = .error .forbidden ↔ files.isClosed place = true := by
  unfold lookUp isClosed
  split_ifs <;> simp_all

theorem follow_cons_of_ok {first : Text} {next : List Text} (h : files.lookUp start first = .ok next)
    (names : List Text) : files.follow start (first :: names) = files.follow next names := by
  rw [follow, h]
  rfl

theorem follow_cons_of_error {first : Text} (h : files.lookUp start first = .error absence) (names : List Text) :
    files.follow start (first :: names) = .error absence := by
  rw [follow, h]
  rfl

theorem Asks.first_or_later {first : Text} (h : files.Asks start (first :: names) place name) :
    place = start ∧ name = first ∨
      ∃ next, files.lookUp start first = .ok next ∧ files.Asks next names place name := by
  obtain ⟨before, after, hnames, hbefore⟩ := h
  cases before with
  | nil =>
    obtain ⟨rfl, -⟩ := List.cons.inj hnames
    rw [follow] at hbefore
    split at hbefore
    · cases hbefore
    · exact .inl ⟨(Except.ok.inj hbefore).symm, rfl⟩
  | cons other before =>
    obtain ⟨rfl, hrest⟩ := List.cons.inj hnames
    cases hlook : files.lookUp start first with
    | error absence =>
      rw [follow_cons_of_error hlook] at hbefore
      cases hbefore
    | ok next => exact .inr ⟨next, rfl, before, after, hrest, (follow_cons_of_ok hlook before).symm.trans hbefore⟩

/-- Other than for want of a file, names cannot be followed exactly if one of them cannot be looked up. -/
theorem follow_eq_error_iff (habsence : absence ≠ .missing) :
    files.follow start names = .error absence ↔
      ∃ place name, files.Asks start names place name ∧ files.lookUp place name = .error absence := by
  induction names generalizing start with
  | nil =>
    refine iff_of_false (fun h => ?_) ?_
    · rw [follow] at h
      split at h
      · exact habsence (Except.error.inj h).symm
      · cases h
    · rintro ⟨place, name, ⟨before, after, hnames, -⟩, -⟩
      simp at hnames
  | cons first names ih =>
    cases hlook : files.lookUp start first with
    | error other =>
      rw [follow_cons_of_error hlook]
      constructor
      · intro h
        obtain rfl := Except.error.inj h
        have hstart : files.item start = some .directory := by
          by_contra hnone
          rw [lookUp_of_not_directory hnone] at hlook
          exact habsence (Except.error.inj hlook).symm
        exact ⟨start, first, ⟨[], names, rfl, by simp [follow, hstart]⟩, hlook⟩
      · rintro ⟨place, name, hasks, h⟩
        rcases hasks.first_or_later with ⟨rfl, rfl⟩ | ⟨next, hnext, -⟩
        · exact hlook.symm.trans h
        · rw [hlook] at hnext
          cases hnext
    | ok next =>
      rw [follow_cons_of_ok hlook, ih]
      constructor
      · rintro ⟨place, name, ⟨before, after, rfl, hbefore⟩, h⟩
        exact ⟨place, name, ⟨first :: before, after, rfl, (follow_cons_of_ok hlook before).trans hbefore⟩, h⟩
      · rintro ⟨place, name, hasks, h⟩
        rcases hasks.first_or_later with ⟨rfl, rfl⟩ | ⟨other, hother, hlater⟩
        · rw [hlook] at h
          cases h
        · obtain rfl := Except.ok.inj (hlook.symm.trans hother)
          exact ⟨place, name, hlater, h⟩

theorem holdsNul_eq_false_iff : holdsNul path = false ↔ ∀ name ∈ path.names, '\x00' ∉ name := by
  simp [holdsNul, List.any_eq_false]

theorem visit_eq_nameTooLong_iff :
    files.visit directory path = .error .nameTooLong ↔ files.IsTooLong directory path := by
  have hfollow : files.follow (origin directory path) path.names = .error .nameTooLong ↔ _ :=
    follow_eq_error_iff (by decide)
  simp only [lookUp_eq_nameTooLong_iff] at hfollow
  rw [visit, IsTooLong, ← holdsNul_eq_false_iff, ← hfollow]
  split_ifs with hnul hlong hclosed
  · simp [hnul]
  · simp [hnul, hlong]
  · obtain ⟨rfl, -⟩ := hclosed
    by_cases hstart : (files.item (origin directory ⟨.none, []⟩)).isNone = true <;> simp_all [follow]
  · simp [hnul, hlong]

theorem visit_eq_forbidden_iff :
    files.visit directory path = .error .forbidden ↔ files.IsForbidden directory path := by
  have hfollow : files.follow (origin directory path) path.names = .error .forbidden ↔ _ :=
    follow_eq_error_iff (by decide)
  simp only [lookUp_eq_forbidden_iff] at hfollow
  rw [visit, IsForbidden, ← holdsNul_eq_false_iff]
  split_ifs with hnul hlong hclosed
  · simp [hnul]
  · exact iff_of_false (by simp) fun h => absurd hlong (Nat.not_lt.2 h.2.1)
  · simp only [true_iff]
    exact ⟨by simpa using hnul, Nat.not_lt.1 hlong, _, hclosed.2, .inl ⟨hclosed.1, rfl⟩⟩
  · rw [hfollow]
    constructor
    · rintro ⟨place, name, hasks, hplace⟩
      exact ⟨by simpa using hnul, Nat.not_lt.1 hlong, place, hplace, .inr ⟨name, hasks⟩⟩
    · rintro ⟨-, -, place, hplace, ⟨hhere, rfl⟩ | ⟨name, hasks⟩⟩
      · exact absurd ⟨hhere, hplace⟩ hclosed
      · exact ⟨place, name, hasks, hplace⟩

end FileSystem

/-! ### Loading -/

namespace VariableFile

variable {world : World} {path : Path}

theorem exists?_eq_false_iff :
    exists? world path = .ok false ↔ world.files.visit world.directory path = .error .missing := by
  rw [exists?]
  cases world.files.visit world.directory path with
  | ok entry => simp
  | error absence => cases absence <;> simp

/-- The test whether there is a file at the end of a path fails, and so does the loading of it. -/
inductive TestFails (world : World) (path : Path) : LoadError → Prop
  | nameTooLong : world.files.IsTooLong world.directory path → TestFails world path (.nameTooLong path)
  | forbidden : world.files.IsForbidden world.directory path → TestFails world path (.forbidden path)

theorem exists?_eq_error_iff {error : LoadError} : exists? world path = .error error ↔ TestFails world path error := by
  constructor
  · intro h
    rw [exists?] at h
    split at h
    · cases h
    · cases h
    · next hvisit =>
      obtain rfl := Except.error.inj h
      exact .forbidden (FileSystem.visit_eq_forbidden_iff.1 hvisit)
    · next hvisit =>
      obtain rfl := Except.error.inj h
      exact .nameTooLong (FileSystem.visit_eq_nameTooLong_iff.1 hvisit)
  · rintro (hlong | hforbidden)
    · rw [exists?, FileSystem.visit_eq_nameTooLong_iff.2 hlong]
    · rw [exists?, FileSystem.visit_eq_forbidden_iff.2 hforbidden]

theorem load_of_missing (h : world.files.visit world.directory path = .error .missing) :
    (load world path).outcome = (.ok [], [.noVariableFile path]) := by
  rw [load, exists?_eq_false_iff.2 h]
  rfl

theorem TestFails.load_eq {error : LoadError} (h : TestFails world path error) :
    (load world path).outcome.1 = .error error := by
  rw [load, exists?_eq_error_iff.2 h]
  rfl

theorem TestFails.isReported_eq {error : LoadError} (h : TestFails world path error) :
    (CommandLine.SetupError.load error).isReported = false := by
  cases h <;> rfl

theorem isReported_of_ofBytes {bytes : Utf8.Bytes} {error : LoadError} (h : ofBytes path bytes = .error error) :
    (CommandLine.SetupError.load error).isReported = true := by
  rw [ofBytes] at h
  split at h
  · obtain rfl := Except.error.inj h
    rfl
  · simp only at h
    split at h
    · obtain rfl := Except.error.inj h
      rfl
    · cases h
    · obtain rfl := Except.error.inj h
      rfl

/-- An error in loading is reported, or else it is that of the test. -/
theorem load_error {error : LoadError} (h : (load world path).outcome.1 = .error error) :
    (CommandLine.SetupError.load error).isReported = true ∨ TestFails world path error := by
  rw [load] at h
  cases hexists : exists? world path with
  | error other =>
    rw [hexists] at h
    obtain rfl := Except.error.inj h
    exact .inr (exists?_eq_error_iff.1 hexists)
  | ok found =>
    rw [hexists] at h
    refine .inl ?_
    cases found with
    | false => cases h
    | true =>
      simp only at h
      split at h
      · obtain rfl := Except.error.inj h
        rfl
      · obtain rfl := Except.error.inj h
        rfl
      · next bytes _ =>
        split at h
        · cases h
        · next hbytes =>
          obtain rfl := Except.error.inj h
          exact isReported_of_ofBytes hbytes

/-- At the end of a path is a file that may be read, in UTF-8, and its text is a document that is one object. -/
def IsDocumentAt (world : World) (path : Path) : Prop :=
  ∃ text, world.files.opened? world.directory path = some (.file (Utf8.encode text)) ∧
    Document.IsObjectDocument text

theorem exists_stores_iff : (∃ members, CommandLine.Stores world path members) ↔ IsDocumentAt world path := by
  constructor
  · rintro ⟨_, bytes, text, found, hopened, hdecode, hread, -⟩
    rw [Text.unified_eq_lineFed] at hread
    refine ⟨text, ?_, ?_⟩
    · rw [hopened, Utf8.decode_eq_ok_iff.1 hdecode]
    · rw [← Document.isObjectDocument_lineFed, ← Document.exists_read_object_iff]
      exact ⟨found, hread⟩
  · rintro ⟨text, hopened, hdocument⟩
    rw [← Document.isObjectDocument_lineFed, ← Document.exists_read_object_iff] at hdocument
    obtain ⟨found, hread⟩ := hdocument
    rw [← Text.unified_eq_lineFed] at hread
    exact ⟨_, _, text, found, hopened, Utf8.decode_encode text, hread, rfl⟩

theorem exists_load_iff (hthere : world.files.visit world.directory path ≠ .error .missing) :
    (∃ vars, (load world path).outcome.1 = .ok vars) ↔ IsDocumentAt world path := by
  rw [← exists_stores_iff]
  constructor
  · rintro ⟨vars, hvars⟩
    refine (CommandLine.stores_or_unloadable (mt exists?_eq_false_iff.1 hthere)).resolve_right ?_
    rintro ⟨error, herror⟩
    rw [hvars] at herror
    cases herror
  · rintro ⟨members, hstores⟩
    exact ⟨_, hstores.load_eq⟩

end VariableFile

/-! ### The setup of a run -/

namespace CommandLine

/-- The file of variables that a run looks for: the one that is named, or else the user's own. -/
inductive LooksFor (userFile : Path) : Option Argument → Path → Prop
  | named {name : Text} : LooksFor userFile (some (.text name)) (Path.ofText name)
  | own : LooksFor userFile none userFile

/-- What the setup of a run fails of without a report: a test for a file, or a switch that lacks its value. -/
inductive Unreported (world : World) (userFile : Path) (invocation : Invocation) : SetupError → Prop
  | untested {path : Path} {error : LoadError} : LooksFor userFile invocation.variableFile path →
      VariableFile.TestFails world path error → Unreported world userFile invocation (.load error)
  | unnamedFile : invocation.variableFile = some .nothing → Unreported world userFile invocation .unnamedFile
  | noDefinition : .nothing ∈ invocation.definitions → Unreported world userFile invocation .noDefinition

variable {world : World} {userFile : Path} {invocation : Invocation} {path : Path} {error : SetupError}

theorem Chooses.looksFor {named : Option Argument} (h : Chooses world userFile named path) :
    LooksFor userFile named path := by
  cases h with
  | named => exact .named
  | own => exact .own

theorem LooksFor.chooses {named : Option Argument} (h : LooksFor userFile named path)
    (hthere : VariableFile.exists? world path ≠ .ok false) : Chooses world userFile named path := by
  cases h with
  | named => exact .named hthere
  | own => exact .own hthere

theorem FileFails.reported_or_unreported (h : FileFails world userFile invocation.variableFile error) :
    error.isReported = true ∨ Unreported world userFile invocation error := by
  generalize hnamed : invocation.variableFile = named at h
  cases h with
  | missing => exact .inl rfl
  | unloadable hchooses hload =>
    exact (VariableFile.load_error hload).imp_right (.untested (hnamed ▸ hchooses.looksFor))
  | nothing => exact .inr (.unnamedFile hnamed)

theorem collect_error_cause (h : (collect world userFile invocation).outcome.1 = .error error) :
    FileFails world userFile invocation.variableFile error ∨
      ∃ argument ∈ invocation.definitions, argument.Malformed ∧ error = argument.complaint := by
  cases hlooks : invocation.noVariables with
  | true =>
    rw [collect_masked hlooks] at h
    cases h
  | false =>
    rcases fileFails_or_holds world userFile invocation.variableFile with
      ⟨other, hfails⟩ | ⟨members, hholds⟩
    · rw [collect_of_fileFails hlooks hfails] at h
      obtain rfl := Except.error.inj h
      exact .inl hfails
    · have hmalformed : ∃ argument ∈ invocation.definitions, argument.Malformed := by
        by_contra hnone
        obtain ⟨vars, hvars, -⟩ := collect_of_wellFormed hlooks hholds fun argument hargument hmalformed =>
          hnone ⟨argument, hargument, hmalformed⟩
        rw [hvars] at h
        cases h
      obtain ⟨argument, hargument, hmalformed⟩ := hmalformed
      obtain ⟨before, first, after, hsplit, hbefore, hfirst⟩ := exists_first_malformed hargument hmalformed
      rw [collect_of_malformed hlooks hholds hsplit hbefore hfirst] at h
      exact .inr ⟨first, by simp [hsplit], hfirst, (Except.error.inj h).symm⟩

theorem reported_or_unreported (h : (collect world userFile invocation).outcome.1 = .error error) :
    error.isReported = true ∨ Unreported world userFile invocation error := by
  rcases collect_error_cause h with hfails | ⟨argument, hargument, -, rfl⟩
  · exact hfails.reported_or_unreported
  · cases argument with
    | text given => exact .inl rfl
    | nothing => exact .inr (.noDefinition hargument)

theorem Unreported.isReported_eq (h : Unreported world userFile invocation error) : error.isReported = false := by
  cases h with
  | untested _ hfails => exact hfails.isReported_eq
  | unnamedFile | noDefinition => rfl

theorem collect_of_testFails (hlooks : invocation.noVariables = false)
    (hfile : LooksFor userFile invocation.variableFile path) {error : LoadError}
    (h : VariableFile.TestFails world path error) :
    (collect world userFile invocation).outcome.1 = .error (.load error) := by
  have hthere : VariableFile.exists? world path ≠ .ok false := by
    rw [VariableFile.exists?_eq_error_iff.2 h]
    simp
  exact collect_of_fileFails hlooks (.unloadable (hfile.chooses hthere) h.load_eq)

end CommandLine

namespace VariableFile

open CommandLine

/-- Loading a file of variables gives none and a note if there is no file, and otherwise gives variables exactly if the
file may be read and is a document that is one object. An error is one that a run reports, unless it comes of the test
whether the file is there, which fails for a path that is too long and for one that leads through a directory that may
not be searched. If the setup of a run fails, then the run ends with a report and the exit code 1, or without a report
when that test fails or a switch lacks its value; and when the test fails, it always ends without a report. -/
theorem load_exactly (world : World) (path : Path) :
    let found := world.files.visit world.directory path
    let loaded := (load world path).outcome
    (found = .error .missing → loaded = (.ok [], [.noVariableFile path])) ∧
    (found ≠ .error .missing → ((∃ vars, loaded.1 = .ok vars) ↔ IsDocumentAt world path)) ∧
    (∀ error, TestFails world path error ↔
      loaded.1 = .error error ∧ (SetupError.load error).isReported = false) ∧
    ∀ (settings : Settings) (userFile : Path) (invocation : Invocation) (text : Text),
      let ended := (fill world settings userFile invocation text).outcome.1
      (∀ error, (collect world userFile invocation).outcome.1 = .error error →
        ended = .ok (.failed 1 (complaint world.wording (error.message world.wording))) ∨
          Unreported world userFile invocation error ∧ ended = .error error) ∧
      (invocation.noVariables = false → LooksFor userFile invocation.variableFile path →
        ∀ error, TestFails world path error → ended = .error (.load error)) := by
  intro found loaded
  refine ⟨load_of_missing, exists_load_iff, fun error => ⟨fun h => ⟨h.load_eq, h.isReported_eq⟩, ?_⟩,
    fun settings userFile invocation text => ⟨fun error herror => ?_, fun hlooks hfile error hfails => ?_⟩⟩
  · rintro ⟨herror, hunreported⟩
    refine (load_error herror).resolve_left ?_
    rw [hunreported]
    exact Bool.false_ne_true
  · rw [fill_of_setupError herror]
    rcases reported_or_unreported herror with hreported | hunreported
    · exact .inl (if_pos hreported)
    · refine .inr ⟨hunreported, if_neg ?_⟩
      rw [hunreported.isReported_eq]
      exact Bool.false_ne_true
  · rw [fill_of_setupError (collect_of_testFails hlooks hfile hfails), hfails.isReported_eq]
    rfl

-- Where the directory that one works in may not be searched, not even a file that is missing can be tested for.
example : (load (workplace.withFiles (workplace.files.close workplace.directory.names))
    (Path.ofText "own".toList)).outcome.1 = .error (.forbidden (Path.ofText "own".toList)) := rfl

def longName : Text :=
  List.replicate 256 'x'

theorem testFails_longName : TestFails workplace (Path.ofText longName) (.nameTooLong (Path.ofText longName)) := by
  have hnames : (Path.ofText longName).names = [longName] := by decide +kernel
  refine .nameTooLong ⟨?_, .inr ⟨_, longName, ⟨[], [], hnames, rfl⟩, rfl, rfl, by decide, by decide +kernel⟩⟩
  rw [hnames]
  decide +kernel

/-- There is no file with such a name. Loading it is an error all the same, and a run for which it is named ends without
a report. -/
theorem load_too_long :
    (load workplace (Path.ofText longName)).outcome.1 = .error (.nameTooLong (Path.ofText longName)) ∧
      (SetupError.load (.nameTooLong (Path.ofText longName))).isReported = false ∧
      (run workplace {} (Path.ofText "own".toList) .terminal
        ["--text".toList, "a".toList, "--vars-file".toList, longName]).outcome.1 =
          .error (.load (.nameTooLong (Path.ofText longName))) := by
  have hparse : parse ["--text".toList, "a".toList, "--vars-file".toList, longName] =
      .ok (.run { text := some (.text "a".toList), variableFile := some (.text longName) }) := by
    decide +kernel
  refine ⟨testFails_longName.load_eq, rfl, ?_⟩
  rw [run, hparse]
  exact fill_of_setupError (collect_of_testFails rfl .named testFails_longName) "a".toList

end VariableFile

end Stencil
