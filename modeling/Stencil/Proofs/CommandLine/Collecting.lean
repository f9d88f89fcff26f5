import Mathlib.Data.List.Forall2
import Stencil.CommandLine.Run
import Stencil.Proofs.Inclusion.Confinement
import Stencil.Proofs.Mapping.Entries
import Stencil.Proofs.Pipeline.Failure
import Stencil.Proofs.Text.Occurrence

/-!
Where the variables of a run come from. There are four sources: a switch that says that there are to be none, the
definitions, a file that is named, and the user's own file. The first masks all others, faulty or not. A file
that is named masks the user's own, and the definitions go over whatever the file holds, the last one of a name
over those before it. A fault in the file is found before any in the definitions, and of these the first
(`collect_by_precedence`).

What masks a source makes the outcome independent of it, so that half of the theorem compares two runs: over
any two worlds when there are to be no variables, and over two contents of the user's own file when another is
named.
-/

namespace Stencil

namespace FileSystem

/-! ### Where a path leads -/

/-- The place that names lead to, by the names alone. -/
def destination (place : List Text) (names : List Text) : List Text :=
  names.foldl Path.descend place

theorem lookUp_put_of_ne {files : FileSystem} {place start : List Text} {name : Text} (hstart : start ≠ place)
    (hnext : Path.descend start name ≠ place) (entry : Option Entry) :
    (files.put place entry).lookUp start name = files.lookUp start name := by
  unfold Path.descend at hnext
  unfold lookUp
  rw [item_put_of_ne hstart]
  by_cases hname : name = Path.above
  · simp only [hname, if_true]
    rfl
  · rw [if_neg hname] at hnext
    rw [item_put_of_ne hnext]
    rfl

/-- Whatever file lies at a place, or none, names that lead elsewhere are followed in the same way. -/
theorem follow_put_file (files : FileSystem) {place : List Text} (first second : Option Utf8.Bytes)
    {start names : List Text} (h : destination start names ≠ place) :
    (files.put place (first.map .file)).follow start names =
      (files.put place (second.map .file)).follow start names := by
  have hnoDirectory (bytes : Option Utf8.Bytes) :
      (files.put place (bytes.map .file)).item place ≠ some .directory := by
    rw [item_put_self]
    cases bytes <;> simp
  induction names generalizing start with
  | nil =>
    have hstart : start ≠ place := h
    rw [follow, follow, item_put_of_ne hstart, item_put_of_ne hstart]
  | cons name names ih =>
    have hrest : destination (Path.descend start name) names ≠ place := h
    rw [follow, follow]
    by_cases hstart : start = place
    · subst hstart
      rw [lookUp_of_not_directory (hnoDirectory first), lookUp_of_not_directory (hnoDirectory second)]
      rfl
    · by_cases hnext : Path.descend start name = place
      · -- The next station is the place itself, and no directory: nothing is found behind it.
        have hmissing (bytes : Option Utf8.Bytes) :
            (files.put place (bytes.map .file)).follow place names = .error .missing := by
          cases names with
          | nil => exact absurd hnext hrest
          | cons later names =>
            rw [follow, lookUp_of_not_directory (hnoDirectory bytes)]
            rfl
        have hbehind (bytes : Option Utf8.Bytes) :
            ((files.put place (bytes.map .file)).lookUp start name >>= fun next =>
              (files.put place (bytes.map .file)).follow next names) =
            ((files.put place (bytes.map .file)).lookUp start name >>= fun _ => .error .missing) := by
          cases hlook : (files.put place (bytes.map .file)).lookUp start name with
          | error absence => rfl
          | ok next =>
            obtain rfl := (eq_descend_of_lookUp hlook).trans hnext
            exact hmissing bytes
        rw [hbehind, hbehind]
        unfold lookUp
        rw [item_put_of_ne hstart, item_put_of_ne hstart, searchable_put, searchable_put]
        split_ifs <;> rfl
      · rw [lookUp_put_of_ne hstart hnext, lookUp_put_of_ne hstart hnext]
        cases hlook : files.lookUp start name with
        | error absence => rfl
        | ok next =>
          obtain rfl := eq_descend_of_lookUp hlook
          exact ih hrest

theorem eq_destination_of_follow {files : FileSystem} {start names place : List Text}
    (h : files.follow start names = .ok place) : place = destination start names := by
  induction names generalizing start with
  | nil =>
    rw [follow] at h
    split at h
    · cases h
    · exact (Except.ok.inj h).symm
  | cons name names ih =>
    rw [follow] at h
    cases hlook : files.lookUp start name with
    | error absence =>
      rw [hlook] at h
      cases h
    | ok next =>
      rw [hlook] at h
      obtain rfl := eq_descend_of_lookUp hlook
      exact ih h

theorem eq_destination_of_visit {files : FileSystem} {directory path : Path} {place : List Text}
    (h : files.visit directory path = .ok place) : place = destination (origin directory path) path.names := by
  rw [visit] at h
  split_ifs at h
  exact eq_destination_of_follow h

section

variable (files : FileSystem) {place : List Text} (first second : Option Utf8.Bytes) {directory path : Path}
  (h : destination (origin directory path) path.names ≠ place)

include h

theorem visit_put_file :
    (files.put place (first.map .file)).visit directory path =
      (files.put place (second.map .file)).visit directory path := by
  have hclosed (bytes : Option Utf8.Bytes) (hhere : path = ⟨.none, []⟩) :
      (files.put place (bytes.map .file)).isClosed (origin directory path) =
        files.isClosed (origin directory path) := by
    have hstart : origin directory path ≠ place := by
      rw [hhere] at h ⊢
      exact h
    rw [isClosed, isClosed, item_put_of_ne hstart, searchable_put]
  rw [visit, visit, follow_put_file files first second h]
  by_cases hhere : path = ⟨.none, []⟩
  · rw [hclosed first hhere, hclosed second hhere]
  · simp only [hhere, false_and]

theorem opened?_put_file :
    (files.put place (first.map .file)).opened? directory path =
      (files.put place (second.map .file)).opened? directory path := by
  rw [opened?, opened?, visit_put_file files first second h]
  cases hvisit : (files.put place (second.map .file)).visit directory path with
  | error absence => rfl
  | ok reached =>
    have hreached : reached ≠ place := eq_destination_of_visit hvisit ▸ h
    simp only [item_put_of_ne hreached]
    rfl

end

end FileSystem

theorem attempt_without_files (world other : World) (settings : Settings) (vars : Option Variables)
    (text : Text) : attempt world settings false vars text = attempt other settings false vars text := by
  cases hmarkers : settings.markers <;> simp only [attempt, Plan.ofSettings, hmarkers] <;> rfl

namespace CommandLine

/-! ### Definitions -/

namespace Argument

/-- An argument defines a variable: the name stands before the first equals sign and the value behind it. -/
def Defines (argument : Argument) (name value : Text) : Prop :=
  argument = .text (name ++ '=' :: value) ∧ name ≠ [] ∧ '=' ∉ name

/-- An argument defines no variable: there is no equals sign in it, or nothing before the first one. -/
inductive Malformed : Argument → Prop
  | unsigned {text : Text} : '=' ∉ text → Malformed (.text text)
  | unnamed (value : Text) : Malformed (.text ('=' :: value))
  | nothing : Malformed .nothing

def complaint : Argument → SetupError
  | .text given => .badDefinition given
  | .nothing => .noDefinition

/-- The variable that an argument defines. -/
def defined : Argument → Except SetupError (Text × Value)
  | .text given => definition given
  | .nothing => .error .noDefinition

variable {argument : Argument} {name value : Text}

theorem Defines.defined_eq (h : argument.Defines name value) : argument.defined = .ok (name, .text value) := by
  obtain ⟨rfl, hname, hsign⟩ := h
  obtain ⟨c, name, rfl⟩ := List.exists_cons_of_ne_nil hname
  rw [defined, definition, Text.cut?_singleton hsign]

theorem Malformed.defined_eq (h : argument.Malformed) : argument.defined = .error argument.complaint := by
  cases h with
  | @unsigned text hsign =>
    have hcut : Text.cut? ['='] text = none :=
      Text.cut?_eq_none_iff.2 fun hoccurs => hsign (hoccurs.subset (by simp))
    rw [defined, definition, hcut]
    rfl
  | unnamed value =>
    have hcut : Text.cut? ['='] ('=' :: value) = some ([], value) :=
      Text.cut?_singleton List.not_mem_nil value
    rw [defined, definition, hcut]
    rfl
  | nothing => rfl

theorem defines_or_malformed (argument : Argument) :
    (∃ name value, argument.Defines name value) ∨ argument.Malformed := by
  cases argument with
  | nothing => exact .inr .nothing
  | text text =>
    by_cases hsign : '=' ∈ text
    · obtain ⟨name, value, rfl, hname⟩ := List.eq_append_cons_of_mem hsign
      cases name with
      | nil => exact .inr (.unnamed value)
      | cons c name => exact .inl ⟨c :: name, value, rfl, List.cons_ne_nil c name, hname⟩
    · exact .inr (.unsigned hsign)

end Argument

/-- A name is defined with this value, and not defined again by a later argument. -/
inductive LastDefines : List Argument → Text → Text → Prop
  | here {argument : Argument} {arguments : List Argument} {name value : Text} :
      argument.Defines name value → (∀ later ∈ arguments, ∀ other, ¬ later.Defines name other) →
      LastDefines (argument :: arguments) name value
  | later {argument : Argument} {arguments : List Argument} {name value : Text} :
      LastDefines arguments name value → LastDefines (argument :: arguments) name value

theorem definitions_eq (arguments : List Argument) :
    definitions arguments = (arguments.mapM Argument.defined).map Mapping.ofPairs :=
  rfl

theorem mapM_defined_of_malformed {before after : List Argument} {argument : Argument}
    (hbefore : ∀ earlier ∈ before, ¬ earlier.Malformed) (h : argument.Malformed) :
    (before ++ argument :: after).mapM Argument.defined = .error argument.complaint := by
  induction before with
  | nil =>
    rw [List.nil_append, List.mapM_cons, h.defined_eq]
    rfl
  | cons earlier before ih =>
    obtain ⟨name, value, hdefines⟩ :=
      earlier.defines_or_malformed.resolve_right (hbefore earlier List.mem_cons_self)
    rw [List.cons_append, List.mapM_cons, hdefines.defined_eq,
      ih fun other hother => hbefore other (List.mem_cons_of_mem _ hother)]
    rfl

theorem exists_mapM_defined {arguments : List Argument} (h : ∀ argument ∈ arguments, ¬ argument.Malformed) :
    ∃ pairs, arguments.mapM Argument.defined = .ok pairs ∧
      List.Forall₂ (fun argument pair => ∃ value, pair.2 = Value.text value ∧ argument.Defines pair.1 value)
        arguments pairs := by
  induction arguments with
  | nil => exact ⟨[], rfl, .nil⟩
  | cons argument arguments ih =>
    obtain ⟨pairs, hpairs, hall⟩ := ih fun other hother => h other (List.mem_cons_of_mem _ hother)
    obtain ⟨name, value, hdefines⟩ :=
      argument.defines_or_malformed.resolve_right (h argument List.mem_cons_self)
    refine ⟨(name, .text value) :: pairs, ?_, .cons ⟨value, rfl, hdefines⟩ hall⟩
    rw [List.mapM_cons, hdefines.defined_eq, hpairs]
    rfl

theorem get?_reverse_defined {arguments : List Argument} {pairs : List (Text × Value)}
    (h : List.Forall₂ (fun argument pair => ∃ value, pair.2 = Value.text value ∧ argument.Defines pair.1 value)
      arguments pairs) (name : Text) :
    (∃ value, LastDefines arguments name value ∧
      Mapping.get? name pairs.reverse = some (.text value)) ∨
    (∀ argument ∈ arguments, ∀ value, ¬ argument.Defines name value) ∧
      Mapping.get? name pairs.reverse = none := by
  induction h with
  | nil => exact .inr ⟨by simp, rfl⟩
  | @cons argument pair arguments pairs hpair _ ih =>
    obtain ⟨key, found⟩ := pair
    obtain ⟨value, rfl, hdefines⟩ := hpair
    rw [List.reverse_cons, Mapping.get?_append]
    rcases ih with ⟨other, hlast, hget⟩ | ⟨hnone, hget⟩
    · exact .inl ⟨other, .later hlast, by rw [hget]; rfl⟩
    · rw [hget, Option.none_or]
      by_cases hkey : key = name
      · subst hkey
        exact .inl ⟨value, .here hdefines hnone, by simp [Mapping.get?]⟩
      · refine .inr ⟨?_, by simp [Mapping.get?, hkey]⟩
        intro later hlater other hother
        rcases List.mem_cons.1 hlater with rfl | hrest
        · have hsame := hdefines.defined_eq.symm.trans hother.defined_eq
          simp only [Except.ok.injEq, Prod.mk.injEq] at hsame
          exact hkey hsame.1
        · exact hnone later hrest other hother

/-! ### Files of variables -/

section

variable {world : World} {userFile : Path} {named : Option Argument} {path : Path}

/-- Variables are loaded from the file that is named, or else from the user's own if it is there. -/
inductive Chooses (world : World) (userFile : Path) : Option Argument → Path → Prop
  | named {name : Text} : VariableFile.exists? world (Path.ofText name) ≠ .ok false →
      Chooses world userFile (some (.text name)) (Path.ofText name)
  | own : VariableFile.exists? world userFile ≠ .ok false → Chooses world userFile none userFile

/-- No variables can be had from a file: the one that is named is not there, or the one that is chosen cannot be
loaded, or one is asked for and none is named. -/
inductive FileFails (world : World) (userFile : Path) : Option Argument → SetupError → Prop
  | missing {name : Text} : VariableFile.exists? world (Path.ofText name) = .ok false →
      FileFails world userFile (some (.text name)) (.noFile (Path.ofText name))
  | unloadable {named : Option Argument} {path : Path} {error : LoadError} :
      Chooses world userFile named path → (VariableFile.load world path).outcome.1 = .error error →
      FileFails world userFile named (.load error)
  | nothing : FileFails world userFile (some .nothing) .unnamedFile

/-- At the end of a path a document can be read that is one object with these members, those apart whose names are
no texts. -/
def Stores (world : World) (path : Path) (members : Variables) : Prop :=
  ∃ bytes text found, world.files.opened? world.directory path = some (.file bytes) ∧
    Utf8.decode bytes = .ok text ∧ Document.read text.unified = .ok (.object found) ∧
    members = Value.named found

/-- The members of the chosen document, which are none if there is no file to choose. -/
inductive Holds (world : World) (userFile : Path) : Option Argument → Variables → Prop
  | stored {named : Option Argument} {path : Path} {members : Variables} :
      Chooses world userFile named path → Stores world path members → Holds world userFile named members
  | absent : VariableFile.exists? world userFile = .ok false → Holds world userFile none []

/-- The variables that the members of a document make, each with the string that it stands for. -/
def displayed (members : Variables) : Variables :=
  members.map fun (name, value) => (name, value.asString)

theorem get?_displayed (members : Variables) (name : Text) :
    (displayed members).get? name = (members.get? name).map Value.asString :=
  Mapping.get?_map Value.asString members name

theorem Stores.load_eq {members : Variables} (h : Stores world path members) :
    (VariableFile.load world path).outcome.1 = .ok (displayed members) := by
  obtain ⟨bytes, text, found, hopened, hdecode, hread, rfl⟩ := h
  have hbytes : VariableFile.ofBytes path bytes = .ok (displayed (Value.named found)) := by
    simp only [VariableFile.ofBytes, hdecode, hread]
    rfl
  rw [VariableFile.load_of_file hopened hbytes]
  rfl

theorem stores_or_unloadable (h : VariableFile.exists? world path ≠ .ok false) :
    (∃ members, Stores world path members) ∨
      ∃ error, (VariableFile.load world path).outcome.1 = .error error := by
  rw [VariableFile.load]
  rcases hexists : VariableFile.exists? world path with error | (_ | _)
  · exact .inr ⟨_, rfl⟩
  · exact absurd hexists h
  · rcases hopened : world.files.opened? world.directory path with _ | (_ | bytes)
    · exact .inr ⟨_, rfl⟩
    · exact .inr ⟨_, rfl⟩
    · cases hbytes : VariableFile.ofBytes path bytes with
      | error error => exact .inr ⟨error, by simp only [hbytes]; rfl⟩
      | ok vars =>
        obtain ⟨text, found, hdecode, hread, -⟩ := VariableFile.ofBytes_eq_ok hbytes
        exact .inl ⟨_, bytes, text, found, hopened, hdecode, hread, rfl⟩

theorem fileFails_or_holds (world : World) (userFile : Path) (named : Option Argument) :
    (∃ error, FileFails world userFile named error) ∨ ∃ members, Holds world userFile named members := by
  have hchosen {path : Path} (h : Chooses world userFile named path)
      (hexists : VariableFile.exists? world path ≠ .ok false) :
      (∃ error, FileFails world userFile named error) ∨ ∃ members, Holds world userFile named members := by
    rcases stores_or_unloadable hexists with ⟨members, hstores⟩ | ⟨error, hload⟩
    · exact .inr ⟨members, .stored h hstores⟩
    · exact .inl ⟨_, .unloadable h hload⟩
  rcases named with _ | (name | _)
  · by_cases hexists : VariableFile.exists? world userFile = .ok false
    · exact .inr ⟨[], .absent hexists⟩
    · exact hchosen (.own hexists) hexists
  · by_cases hexists : VariableFile.exists? world (Path.ofText name) = .ok false
    · exact .inl ⟨_, .missing hexists⟩
    · exact hchosen (.named hexists) hexists
  · exact .inl ⟨_, .nothing⟩

theorem outcome_tested (h : VariableFile.exists? world path ≠ .ok false)
    (absent : Noted SetupError Variables) :
    (match VariableFile.exists? world path with
      | .error error => throw (.load error)
      | .ok false => absent
      | .ok true => (VariableFile.load world path).adapt .load : Noted SetupError Variables).outcome.1 =
      (VariableFile.load world path).outcome.1.mapError .load := by
  rcases hexists : VariableFile.exists? world path with error | (_ | _)
  · rw [VariableFile.load, hexists]
    rfl
  · exact absurd hexists h
  · rfl

theorem fileVariables_of_chooses (h : Chooses world userFile named path) :
    (fileVariables world userFile named).outcome.1 =
      (VariableFile.load world path).outcome.1.mapError .load := by
  cases h with
  | named hexists => exact outcome_tested hexists _
  | own hexists => exact outcome_tested hexists _

theorem FileFails.fileVariables_eq {error : SetupError} (h : FileFails world userFile named error) :
    (fileVariables world userFile named).outcome.1 = .error error := by
  cases h with
  | missing hexists =>
    simp only [fileVariables, hexists]
    rfl
  | unloadable hchooses hload =>
    rw [fileVariables_of_chooses hchooses, hload]
    rfl
  | nothing => rfl

theorem Holds.fileVariables_eq {members : Variables} (h : Holds world userFile named members) :
    (fileVariables world userFile named).outcome.1 = .ok (displayed members) := by
  cases h with
  | stored hchooses hstores =>
    rw [fileVariables_of_chooses hchooses, hstores.load_eq]
    rfl
  | absent hexists =>
    simp only [fileVariables, hexists]
    rfl

theorem fileVariables_congr {other : World} {name : Text}
    (hvisit : world.files.visit world.directory (Path.ofText name) =
      other.files.visit other.directory (Path.ofText name))
    (hopened : world.files.opened? world.directory (Path.ofText name) =
      other.files.opened? other.directory (Path.ofText name)) (userFile otherFile : Path) :
    fileVariables world userFile (some (.text name)) = fileVariables other otherFile (some (.text name)) := by
  simp only [fileVariables, VariableFile.exists?, VariableFile.load, hvisit, hopened]

end

/-! ### Collecting -/

section

variable {world : World} {userFile : Path} {invocation : Invocation}

theorem collect_masked (h : invocation.noVariables = true) (world : World) (userFile : Path) :
    collect world userFile invocation = pure none := by
  rw [collect, if_pos h]

theorem collect_of_fileFails (hlooks : invocation.noVariables = false) {error : SetupError}
    (h : FileFails world userFile invocation.variableFile error) :
    (collect world userFile invocation).outcome.1 = .error error := by
  have hrun : (fileVariables world userFile invocation.variableFile).run.run [] =
      (.error error, (fileVariables world userFile invocation.variableFile).outcome.2) :=
    Prod.ext h.fileVariables_eq rfl
  rw [Noted.outcome, collect, hlooks]
  exact congrArg Prod.fst (run_bind_of_error hrun)

theorem collect_of_holds (hlooks : invocation.noVariables = false) {members : Variables}
    (h : Holds world userFile invocation.variableFile members) :
    (collect world userFile invocation).outcome.1 =
      (invocation.definitions.mapM Argument.defined).map fun pairs =>
        some ((displayed members).insertAll (Mapping.ofPairs pairs)) := by
  have hrun : (fileVariables world userFile invocation.variableFile).run.run [] =
      (.ok (displayed members), (fileVariables world userFile invocation.variableFile).outcome.2) :=
    Prod.ext h.fileVariables_eq rfl
  rw [Noted.outcome, collect, hlooks]
  refine (congrArg Prod.fst (run_bind_of_ok hrun)).trans ?_
  rw [definitions_eq]
  cases invocation.definitions.mapM Argument.defined <;> rfl

theorem collect_of_malformed (hlooks : invocation.noVariables = false) {members : Variables}
    (h : Holds world userFile invocation.variableFile members) {before after : List Argument}
    {argument : Argument} (hdefinitions : invocation.definitions = before ++ argument :: after)
    (hbefore : ∀ earlier ∈ before, ¬ earlier.Malformed) (hmalformed : argument.Malformed) :
    (collect world userFile invocation).outcome.1 = .error argument.complaint := by
  rw [collect_of_holds hlooks h, hdefinitions, mapM_defined_of_malformed hbefore hmalformed]
  rfl

theorem collect_of_wellFormed (hlooks : invocation.noVariables = false) {members : Variables}
    (h : Holds world userFile invocation.variableFile members)
    (hall : ∀ argument ∈ invocation.definitions, ¬ argument.Malformed) :
    ∃ vars, (collect world userFile invocation).outcome.1 = .ok (some vars) ∧ ∀ name,
      (∃ value, LastDefines invocation.definitions name value ∧ vars.get? name = some (.text value)) ∨
      (∀ argument ∈ invocation.definitions, ∀ value, ¬ argument.Defines name value) ∧
        vars.get? name = (members.get? name).map Value.asString := by
  obtain ⟨pairs, hpairs, hdefines⟩ := exists_mapM_defined hall
  refine ⟨(displayed members).insertAll (Mapping.ofPairs pairs), ?_, fun name => ?_⟩
  · rw [collect_of_holds hlooks h, hpairs]
    rfl
  · rw [Mapping.get?_insertAll_ofPairs, Mapping.get?_ofPairs, get?_displayed]
    rcases get?_reverse_defined hdefines name with ⟨value, hlast, hget⟩ | ⟨hnone, hget⟩
    · exact .inl ⟨value, hlast, by rw [hget]; rfl⟩
    · exact .inr ⟨hnone, by rw [hget, Option.none_or]⟩

theorem exists_first_malformed {arguments : List Argument} {argument : Argument}
    (hargument : argument ∈ arguments) (h : argument.Malformed) :
    ∃ before first after, arguments = before ++ first :: after ∧
      (∀ earlier ∈ before, ¬ earlier.Malformed) ∧ first.Malformed := by
  induction arguments with
  | nil => cases hargument
  | cons head arguments ih =>
    by_cases hhead : head.Malformed
    · exact ⟨[], head, arguments, rfl, nofun, hhead⟩
    · have hrest : argument ∈ arguments := by
        rcases List.mem_cons.1 hargument with rfl | hrest
        · exact absurd h hhead
        · exact hrest
      obtain ⟨before, first, after, rfl, hbefore, hfirst⟩ := ih hrest
      exact ⟨head :: before, first, after, rfl, List.forall_mem_cons.2 ⟨hhead, hbefore⟩, hfirst⟩

/-- There are faults in the file and in the definitions, and no others. -/
theorem collect_error_iff (hlooks : invocation.noVariables = false) :
    (∃ error, (collect world userFile invocation).outcome.1 = .error error) ↔
      (∃ error, FileFails world userFile invocation.variableFile error) ∨
        ∃ argument ∈ invocation.definitions, argument.Malformed := by
  rcases fileFails_or_holds world userFile invocation.variableFile with
    ⟨error, hfails⟩ | ⟨members, hholds⟩
  · exact ⟨fun _ => .inl ⟨error, hfails⟩, fun _ => ⟨error, collect_of_fileFails hlooks hfails⟩⟩
  · refine ⟨?_, ?_⟩
    · rintro ⟨error, herror⟩
      by_contra hnone
      rw [not_or] at hnone
      obtain ⟨vars, hvars, -⟩ := collect_of_wellFormed hlooks hholds fun argument hargument hmalformed =>
        hnone.2 ⟨argument, hargument, hmalformed⟩
      exact absurd (herror.symm.trans hvars) (by simp)
    · rintro (⟨error, hfails⟩ | ⟨argument, hargument, hmalformed⟩)
      · exact ⟨error, collect_of_fileFails hlooks hfails⟩
      · obtain ⟨before, first, after, hdefinitions, hbefore, hfirst⟩ :=
          exists_first_malformed hargument hmalformed
        exact ⟨first.complaint, collect_of_malformed hlooks hholds hdefinitions hbefore hfirst⟩

/-! ### Sources that are masked -/

def Invocation.supplied (invocation : Invocation) (definitions : List Argument)
    (named : Option Argument) : Invocation :=
  { invocation with definitions := definitions, variableFile := named }

theorem attempt_supplied (hfiles : invocation.withFiles = false) (world other : World)
    (definitions : List Argument) (named : Option Argument) (settings : Settings) (vars : Option Variables)
    (text : Text) :
    (invocation.supplied definitions named).attempt other settings vars text =
      invocation.attempt world settings vars text := by
  have hfiles' : (invocation.supplied definitions named).withFiles = false := hfiles
  have hoverride : (invocation.supplied definitions named).override settings =
      invocation.override settings := rfl
  have hmarker : (invocation.supplied definitions named).lacksMarker = invocation.lacksMarker := rfl
  have hfaults (settings : Settings) : (invocation.supplied definitions named).sideFaults settings =
      invocation.sideFaults settings := rfl
  have hseparator (settings : Settings) :
      (invocation.supplied definitions named).lacksSeparator other settings vars text =
        invocation.lacksSeparator world settings vars text := by
    simp only [Invocation.lacksSeparator, hfiles, hfiles']
    rfl
  simp only [Invocation.attempt, hoverride, hmarker, hfaults, hseparator, hfiles, hfiles',
    attempt_without_files other world]

theorem leavesHalf_supplied (hfiles : invocation.withFiles = false) (world other : World)
    (definitions : List Argument) (named : Option Argument) (settings : Settings) (vars : Option Variables)
    (text result : Text) :
    (invocation.supplied definitions named).leavesHalf other settings vars text result =
      invocation.leavesHalf world settings vars text result := by
  simp only [Invocation.leavesHalf]
  rw [attempt_supplied hfiles world]

/-- Without files to be included a run depends on its sources and on the world by its variables alone. -/
theorem invoke_supplied (hfiles : invocation.withFiles = false) {other : World} {otherFile : Path}
    {definitions : List Argument} {named : Option Argument} (hwording : other.wording = world.wording)
    (hcollect : collect other otherFile (invocation.supplied definitions named) =
      collect world userFile invocation) (settings : Settings) (input : Input) :
    invoke other settings otherFile input (invocation.supplied definitions named) =
      invoke world settings userFile input invocation := by
  have hfill (text : Text) : fill other settings otherFile (invocation.supplied definitions named) text =
      fill world settings userFile invocation text := by
    simp only [fill, hcollect, leavesHalf_supplied hfiles world, attempt_supplied hfiles world, hwording]
  have htext : (invocation.supplied definitions named).text = invocation.text := rfl
  simp only [invoke, hfill, htext]

theorem collect_put_own {name : Text} {place : List Text}
    (hnamed : invocation.variableFile = some (.text name))
    (hapart : FileSystem.destination (FileSystem.origin world.directory (Path.ofText name))
      (Path.ofText name).names ≠ place) (first second : Option Utf8.Bytes) :
    collect (world.withFiles (world.files.put place (first.map .file))) userFile invocation =
      collect (world.withFiles (world.files.put place (second.map .file))) userFile invocation := by
  rw [collect, collect, hnamed, fileVariables_congr _ _ userFile userFile]
  · exact FileSystem.visit_put_file world.files first second hapart
  · exact FileSystem.opened?_put_file world.files first second hapart

/-- The variables of a run come from its sources by precedence. When there are to be none, there are none, and
without files to be included nothing depends on what is named and defined. Otherwise a fault is found exactly if
the file fails or a definition is malformed, first in the file and then in the first of these definitions. Without a
fault the value under a name is that of its last definition, or else the text of what the file holds under it. And
when a file is named, the content of the user's own file does not matter. -/
theorem collect_by_precedence (world : World) (userFile : Path) (invocation : Invocation) :
    let collected := (collect world userFile invocation).outcome.1
    (invocation.noVariables = true →
      collected = .ok none ∧
        (invocation.withFiles = false → ∀ other settings otherFile input definitions named,
          other.wording = world.wording →
            invoke other settings otherFile input (invocation.supplied definitions named) =
              invoke world settings userFile input invocation)) ∧
    (invocation.noVariables = false →
      ((∃ error, collected = .error error) ↔
        (∃ error, FileFails world userFile invocation.variableFile error) ∨
          ∃ argument ∈ invocation.definitions, argument.Malformed) ∧
      (∀ error, FileFails world userFile invocation.variableFile error → collected = .error error) ∧
      ((∀ error, ¬ FileFails world userFile invocation.variableFile error) →
        ∃ members, Holds world userFile invocation.variableFile members ∧
          (∀ before argument after, invocation.definitions = before ++ argument :: after →
            (∀ earlier ∈ before, ¬ earlier.Malformed) → argument.Malformed →
            collected = .error argument.complaint) ∧
          ((∀ argument ∈ invocation.definitions, ¬ argument.Malformed) →
            ∃ vars, collected = .ok (some vars) ∧ ∀ name,
              (∃ value, LastDefines invocation.definitions name value ∧
                vars.get? name = some (.text value)) ∨
              (∀ argument ∈ invocation.definitions, ∀ value, ¬ argument.Defines name value) ∧
                vars.get? name = (members.get? name).map Value.asString))) ∧
    (∀ name, invocation.variableFile = some (.text name) →
      let own := FileSystem.destination (FileSystem.origin world.directory userFile) userFile.names
      FileSystem.destination (FileSystem.origin world.directory (Path.ofText name))
          (Path.ofText name).names ≠ own →
        ∀ first second : Option Utf8.Bytes,
          let one := world.withFiles (world.files.put own (first.map .file))
          let two := world.withFiles (world.files.put own (second.map .file))
          collect one userFile invocation = collect two userFile invocation ∧
            (invocation.withFiles = false → ∀ settings input,
              invoke one settings userFile input invocation =
                invoke two settings userFile input invocation)) := by
  intro collected
  refine ⟨fun hmasked => ⟨?_, ?_⟩, fun hlooks => ⟨collect_error_iff hlooks, ?_, ?_⟩, ?_⟩
  · show (collect world userFile invocation).outcome.1 = _
    rw [collect_masked hmasked]
    rfl
  · intro hfiles other settings otherFile input definitions named hwording
    have hmasked' : (invocation.supplied definitions named).noVariables = true := hmasked
    refine invoke_supplied hfiles hwording ?_ settings input
    rw [collect_masked hmasked, collect_masked hmasked']
  · intro error hfails
    exact collect_of_fileFails hlooks hfails
  · intro hnone
    obtain ⟨members, hholds⟩ := (fileFails_or_holds world userFile invocation.variableFile).resolve_left
      fun ⟨error, hfails⟩ => hnone error hfails
    refine ⟨members, hholds, ?_, fun hall => collect_of_wellFormed hlooks hholds hall⟩
    intro before argument after hdefinitions hbefore hmalformed
    exact collect_of_malformed hlooks hholds hdefinitions hbefore hmalformed
  · intro name hnamed own hapart first second one two
    have hcollect : collect one userFile invocation = collect two userFile invocation :=
      collect_put_own hnamed hapart first second
    exact ⟨hcollect, fun hfiles => invoke_supplied hfiles rfl hcollect⟩

end

end CommandLine

end Stencil
