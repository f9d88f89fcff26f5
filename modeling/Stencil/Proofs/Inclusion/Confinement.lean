import Stencil.Pipeline
import Stencil.Surroundings.Wording

/-!
A base directory confines what is included. The place that a span names is worked out by names alone, and
it is compared with the base before anything is looked at. So a run depends on the file system at the base
and below it and nowhere else, which is said here with two file systems that agree there
(`process_confined`). It holds for all texts, variables and markers: whatever content comes to be handed
over, its place is either in the base directory or not looked at.
-/

namespace Stencil

/-- Two file systems in which the same is seen at a place and below it. -/
def FileSystem.AgreeBelow (place : List Text) (files others : FileSystem) : Prop :=
  ∀ names, place <+: names →
    files.entry names = others.entry names ∧ files.readable names = others.readable names

theorem FileSystem.agreeBelow_put {place other : List Text} (h : ¬ place <+: other)
    (files : FileSystem) (entry : Option Entry) :
    FileSystem.AgreeBelow place files (files.put other entry) := by
  intro names hnames
  have hne : names ≠ other := fun heq => h (heq ▸ hnames)
  exact ⟨(entry_put_of_ne hne entry).symm, rfl⟩

namespace World

def withFiles (world : World) (files : FileSystem) : World :=
  { world with files := files }

@[simp] theorem files_withFiles (world : World) (files : FileSystem) :
    (world.withFiles files).files = files := rfl

@[simp] theorem wording_withFiles (world : World) (files : FileSystem) :
    (world.withFiles files).wording = world.wording := rfl

@[simp] theorem placeOf_withFiles (world : World) (files : FileSystem) (content : Text) :
    (world.withFiles files).placeOf content = world.placeOf content := rfl

theorem root_of_placeOf {world : World} {content : Text} {path : Path}
    (h : world.placeOf content = .ok path) (hdirectory : world.directory.root ≠ .none) :
    path.root ≠ .none := by
  unfold placeOf at h
  cases hexpanded : world.expandHome (content.trim Blank.isBlank) with
  | error error => simp [hexpanded, Except.map] at h
  | ok text =>
    simp only [hexpanded, Except.map, Except.ok.injEq] at h
    rw [← h, Path.resolve, Path.collapsed, Path.seenFrom]
    split
    · exact hdirectory
    · assumption

theorem above_notMem_of_placeOf {world : World} {content : Text} {path : Path}
    (h : world.placeOf content = .ok path) : Path.above ∉ path.names := by
  unfold placeOf at h
  cases hexpanded : world.expandHome (content.trim Blank.isBlank) with
  | error error => simp [hexpanded, Except.map] at h
  | ok text =>
    simp only [hexpanded, Except.map, Except.ok.injEq] at h
    exact h ▸ Path.above_notMem_resolve world.directory text

end World

namespace Inclusion

variable {inclusion : Inclusion} {base path : Path} {files others : FileSystem}

theorem base_ofSettings (world : World) (limit : Int) {base : Text} (hbase : base ≠ []) :
    (ofSettings world limit (some base)).base = some (Path.resolve world.directory base) := by
  cases base with
  | nil => exact absurd rfl hbase
  | cons c base => rfl

theorem permits_iff (hbase : inclusion.base = some base) :
    inclusion.permits path = true ↔ base.root = .single ∧ base.names <+: path.names := by
  rw [permits, hbase]
  exact Path.isWithin_iff

theorem bytesAt_of_outside (hbase : inclusion.base = some base)
    (h : ¬ base.names <+: path.names) (files : FileSystem) :
    inclusion.bytesAt files path = .error (.outside path) := by
  have hdenied : inclusion.permits path = false := by
    rw [Bool.eq_false_iff, Ne, permits_iff hbase]
    exact fun hpermits => h hpermits.2
  simp [bytesAt, hdenied]

theorem within_of_bytesAt (hbase : inclusion.base = some base) {bytes : Utf8.Bytes}
    (h : inclusion.bytesAt files path = .ok bytes) : base.names <+: path.names := by
  refine Decidable.byContradiction fun houtside => ?_
  rw [bytesAt_of_outside hbase houtside] at h
  exact absurd h (by simp)

theorem bytesAt_congr (hbase : inclusion.base = some base)
    (h : FileSystem.AgreeBelow base.names files others) (path : Path) :
    inclusion.bytesAt files path = inclusion.bytesAt others path := by
  by_cases hwithin : base.names <+: path.names
  · obtain ⟨hentry, hreadable⟩ := h path.names hwithin
    have hfind : files.find path = others.find path := by
      rw [FileSystem.find, FileSystem.find, hentry]
    rw [bytesAt, bytesAt, hfind, hreadable]
  · rw [bytesAt_of_outside hbase hwithin, bytesAt_of_outside hbase hwithin]

theorem reply_congr {world : World} (hbase : inclusion.base = some base)
    (h : FileSystem.AgreeBelow base.names world.files others) (content : Text) :
    inclusion.reply (world.withFiles others) content = inclusion.reply world content := by
  unfold reply readFile
  rw [World.placeOf_withFiles, World.files_withFiles]
  refine congrArg (world.placeOf content >>= ·) (funext fun path => ?_)
  rw [bytesAt_congr hbase h path]

theorem reply_of_outside {world : World} (hbase : inclusion.base = some base) {content : Text}
    (hplace : world.placeOf content = .ok path) (h : ¬ base.names <+: path.names) :
    inclusion.reply world content = .error (.outside path) := by
  unfold reply readFile
  rw [hplace]
  change (inclusion.bytesAt world.files path >>= _) = _
  rw [bytesAt_of_outside hbase h]
  rfl

theorem noted_congr {world : World} (hbase : inclusion.base = some base)
    (h : FileSystem.AgreeBelow base.names world.files others) :
    inclusion.noted (world.withFiles others) = inclusion.noted world := by
  funext content
  rw [noted, noted, reply_congr hbase h]

end Inclusion

namespace Plan

theorem ofSettings_withFiles (world : World) (files : FileSystem) (settings : Settings)
    (withFiles : Bool) :
    ofSettings (world.withFiles files) settings withFiles = ofSettings world settings withFiles := rfl

theorem files_ofSettings {world : World} {settings : Settings} {plan : Plan}
    (h : ofSettings world settings true = .ok plan) :
    ∃ markers, plan.files =
      some (markers, Inclusion.ofSettings world settings.fileLimit settings.fileBase) := by
  unfold ofSettings at h
  cases hmarkers : settings.markers with
  | error empty => simp [hmarkers, bind, Except.bind] at h
  | ok markers =>
    cases hfiles : settings.fileMarkers with
    | error empty => simp [hmarkers, hfiles, bind, Except.bind, Except.map] at h
    | ok fileMarkers =>
      simp only [hmarkers, hfiles, bind, Except.bind, Except.map, if_true, pure, Except.pure,
        Except.ok.injEq] at h
      exact ⟨fileMarkers, by rw [← h]⟩

theorem run_congr {plan : Plan} {world : World} {others : FileSystem} {markers : Markers}
    {inclusion : Inclusion} {base : Path} (hfiles : plan.files = some (markers, inclusion))
    (hbase : inclusion.base = some base)
    (h : FileSystem.AgreeBelow base.names world.files others) (vars : Option Variables)
    (text : Text) :
    plan.run (world.withFiles others) vars text = plan.run world vars text := by
  unfold run
  rw [hfiles]
  simp only [Inclusion.noted_congr hbase h]

end Plan

/-- With a base directory, a run is the same in two file systems that agree at the base and below it. A
file that is opened lies there, at a place with a root and without `..`; and a content that names a place
elsewhere is denied whatever the file system holds. -/
theorem process_confined (world : World) (settings : Settings) {base : Text}
    (hbase : settings.fileBase = some base) (hne : base ≠ []) :
    (∀ others, FileSystem.AgreeBelow (Path.resolve world.directory base).names world.files others →
      ∀ vars text, (process (world.withFiles others) settings true vars text).outcome =
        (process world settings true vars text).outcome) ∧
    (∀ content path bytes, world.placeOf content = .ok path →
      (Inclusion.ofSettings world settings.fileLimit settings.fileBase).bytesAt world.files path =
        .ok bytes →
      (world.directory.root ≠ .none → path.root ≠ .none) ∧ Path.above ∉ path.names ∧
        (Path.resolve world.directory base).names <+: path.names) ∧
    (∀ content path, world.placeOf content = .ok path →
      ¬ (Path.resolve world.directory base).names <+: path.names →
      ∀ others, (Inclusion.ofSettings world settings.fileLimit settings.fileBase).reply
        (world.withFiles others) content = .error (.outside path)) := by
  have hinclusion : (Inclusion.ofSettings world settings.fileLimit settings.fileBase).base =
      some (Path.resolve world.directory base) := by
    rw [hbase]
    exact Inclusion.base_ofSettings world settings.fileLimit hne
  refine ⟨?_, ?_, ?_⟩
  · intro others hagree vars text
    -- The two runs are the same computation, whatever text the first pass leaves for the second.
    have hsame : process (world.withFiles others) settings true vars text =
        process world settings true vars text := by
      unfold process attempt
      rw [Plan.ofSettings_withFiles]
      cases hplan : Plan.ofSettings world settings true with
      | error empty => rfl
      | ok plan =>
        obtain ⟨markers, hfiles⟩ := Plan.files_ofSettings hplan
        simp only [Plan.run_congr hfiles hinclusion hagree, World.wording_withFiles]
    rw [hsame]
  · intro content path bytes hplace hbytes
    exact ⟨World.root_of_placeOf hplace, World.above_notMem_of_placeOf hplace,
      Inclusion.within_of_bytesAt hinclusion hbytes⟩
  · intro content path hplace houtside others
    exact Inclusion.reply_of_outside hinclusion (by simpa using hplace) houtside

def workplace : World where
  files := FileSystem.empty.write ["w".toList, "base".toList, "f".toList] [0x66]
  directory := ⟨.single, ["w".toList]⟩
  home := "/w/base".toList
  users := []
  wording := .standard fun _ => ""

def confined : Settings where
  fileBase := some "base/.".toList

def confinedInclusion : Inclusion :=
  Inclusion.ofSettings workplace confined.fileLimit confined.fileBase

def inBase : Path := ⟨.single, ["w".toList, "base".toList, "f".toList]⟩

def besideBase : Path := ⟨.single, ["w".toList, "base2".toList]⟩

def crowdedWorkplace : World :=
  workplace.withFiles (workplace.files.put besideBase.names (some .directory))

/-- The neighbour is reached by way of the base, and denied whether it is there or not. The file in the
base is opened. -/
theorem process_confined_workplace :
    confined.fileBase = some "base/.".toList ∧ "base/.".toList ≠ [] ∧
      (process crowdedWorkplace confined true none "%\x7b ~/../base2/ \x7d".toList).outcome =
        (process workplace confined true none "%\x7b ~/../base2/ \x7d".toList).outcome ∧
      workplace.placeOf " ~/../base2/ ".toList = .ok besideBase ∧
      confinedInclusion.reply crowdedWorkplace " ~/../base2/ ".toList = .error (.outside besideBase) ∧
      workplace.placeOf "base/f".toList = .ok inBase ∧
      confinedInclusion.bytesAt workplace.files inBase = .ok [0x66] ∧
      Path.above ∉ inBase.names ∧ ["w".toList, "base".toList] <+: inBase.names := by
  have hbase : confined.fileBase = some "base/.".toList := rfl
  have hne : "base/.".toList ≠ [] := by decide
  have hbeside : workplace.placeOf " ~/../base2/ ".toList = .ok besideBase := rfl
  have hinside : workplace.placeOf "base/f".toList = .ok inBase := rfl
  have hbytes : confinedInclusion.bytesAt workplace.files inBase = .ok [0x66] := rfl
  have hplace : (Path.resolve workplace.directory "base/.".toList).names =
      ["w".toList, "base".toList] := rfl
  obtain ⟨hsame, hopened, hdenied⟩ := process_confined workplace confined hbase hne
  rw [hplace] at hsame hopened hdenied
  have hagree := FileSystem.agreeBelow_put (by decide : ¬ ["w".toList, "base".toList] <+:
    besideBase.names) workplace.files (some .directory)
  obtain ⟨-, habove, hwithin⟩ := hopened _ _ _ hinside hbytes
  exact ⟨hbase, hne, hsame _ hagree none _, hbeside, hdenied _ _ hbeside (by decide) _, hinside,
    hbytes, habove, hwithin⟩

end Stencil
