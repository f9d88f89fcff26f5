import Stencil.Proofs.Inclusion.Confinement
import Stencil.Proofs.Text.Lines
import Stencil.Proofs.Text.Utf8
import Mathlib.Data.List.TakeWhile

/-!
The checks on a file that is to be included. There are five, in a fixed order, and the first one that fails is the
error; if none fails, the file is included (`reply_exactly`). They are about a place, so the content of the span has
to name one. It does, unless it asks for the home directory of a user whose name has a NUL in it, which is refused
before there is a place, with an error that names no file.

The first check is about the base directory. It denies what lies outside the base, but it compares a place with the
base by the deepest directory that the two have in common, and that directory is always shown with one slash at its
start. A base with two slashes there is equal to no such directory, and all places are outside it
(`reply_outside_iff`).
-/

namespace Stencil

/-! ### The place that a content names -/

namespace World

/-- A text begins with a `~` and has a NUL behind it, with no slash between the two. -/
def AsksForNul (text : Text) : Prop :=
  ∃ name rest, text = '~' :: (name ++ '\x00' :: rest) ∧ '/' ∉ name

theorem mem_takeWhile_iff {c : Char} (hc : c ≠ '/') {text : Text} :
    c ∈ text.takeWhile (· ≠ '/') ↔ ∃ name rest, text = name ++ c :: rest ∧ '/' ∉ name := by
  constructor
  · intro hmem
    obtain ⟨name, rest, hsplit⟩ := List.append_of_mem hmem
    refine ⟨name, rest ++ text.dropWhile (· ≠ '/'), ?_, fun hslash => ?_⟩
    · rw [← List.cons_append, ← List.append_assoc, ← hsplit, List.takeWhile_append_dropWhile]
    · have hfirst : '/' ∈ text.takeWhile (· ≠ '/') := hsplit ▸ List.mem_append_left _ hslash
      simpa using List.mem_takeWhile_imp hfirst
  · rintro ⟨name, rest, rfl, hname⟩
    have hall : ∀ d ∈ name, decide (d ≠ '/') = true :=
      fun d hd => decide_eq_true fun heq => hname (heq ▸ hd)
    rw [List.takeWhile_append_of_pos hall]
    simp [hc]

theorem expandHome_eq_error_iff {world : World} {text : Text} {error : InclusionError} :
    world.expandHome text = .error error ↔ error = .nulInUserName ∧ AsksForNul text := by
  have hasks (text' : Text) : AsksForNul ('~' :: text') ↔ '\x00' ∈ text'.takeWhile (· ≠ '/') := by
    rw [mem_takeWhile_iff (by decide)]
    simp [AsksForNul]
  unfold expandHome
  split
  · next text' =>
    rw [hasks, List.span_eq_takeWhile_dropWhile]
    generalize text'.takeWhile (· ≠ '/') = name
    simp only
    split
    · next hnil => simp [hnil]
    · split
      · next hnul => simp [List.contains_iff_mem.1 hnul, eq_comm]
      · next hnul =>
        have hnone : '\x00' ∉ name := mt List.contains_iff_mem.2 hnul
        split <;> simp [hnone]
  · next hother =>
    refine ⟨fun h => absurd h (by simp), ?_⟩
    rintro ⟨-, name, rest, htext, -⟩
    exact absurd htext fun h => hother _ h

theorem exists_expandHome (world : World) {text : Text} (h : ¬ AsksForNul text) :
    ∃ named, world.expandHome text = .ok named := by
  cases hexpanded : world.expandHome text with
  | error error => exact absurd (expandHome_eq_error_iff.1 hexpanded).2 h
  | ok named => exact ⟨named, rfl⟩

theorem placeOf_of_expandHome {world : World} {content named : Text}
    (h : world.expandHome (content.trim Blank.isBlank) = .ok named) :
    world.placeOf content = .ok (Path.resolve world.directory named) := by
  rw [placeOf, h]
  rfl

theorem placeOf_eq_error_iff {world : World} {content : Text} {error : InclusionError} :
    world.placeOf content = .error error ↔
      error = .nulInUserName ∧ AsksForNul (content.trim Blank.isBlank) := by
  rw [← @expandHome_eq_error_iff world, placeOf]
  cases world.expandHome (content.trim Blank.isBlank) with
  | error other => simp [Except.map]
  | ok named => simp [Except.map]

end World

/-! ### The checks on a place -/

namespace Inclusion

/-- A place is one that files may be included from: it is below the base directory, if there is one, and the base
has a single slash at its start. -/
def Allows (inclusion : Inclusion) (path : Path) : Prop :=
  ∀ base ∈ inclusion.base, base.root = .single ∧ base.names <+: path.names

/-- What comes of the request for the file at a place. Each check is made if those before it have passed, and the
first that fails is the error. The text of a file that passes all of them is included with every line ended by a
line feed. -/
inductive Settles (inclusion : Inclusion) (files : FileSystem) (path : Path) :
    Except InclusionError Text → Prop
  | outside : ¬ inclusion.Allows path → Settles inclusion files path (.error (.outside path))
  | missing : inclusion.Allows path → (∀ bytes, files.find path ≠ some (.file bytes)) →
      Settles inclusion files path (.error (.missing path))
  | unreadable {bytes : Utf8.Bytes} : inclusion.Allows path → files.find path = some (.file bytes) →
      files.readable path.names = false → Settles inclusion files path (.error (.unreadable path))
  | tooLarge {bytes : Utf8.Bytes} : inclusion.Allows path → files.find path = some (.file bytes) →
      files.readable path.names = true → inclusion.limit < bytes.length →
      Settles inclusion files path (.error (.tooLarge path bytes.length))
  | notUtf8 {bytes : Utf8.Bytes} : inclusion.Allows path → files.find path = some (.file bytes) →
      files.readable path.names = true → bytes.length ≤ inclusion.limit →
      (∀ text, bytes ≠ Utf8.encode text) → Settles inclusion files path (.error (.notUtf8 path))
  | included {text : Text} : inclusion.Allows path →
      files.find path = some (.file (Utf8.encode text)) → files.readable path.names = true →
      (Utf8.encode text).length ≤ inclusion.limit → Settles inclusion files path (.ok text.lineFed)

variable {inclusion : Inclusion} {files : FileSystem} {path : Path} {bytes : Utf8.Bytes}
  {outcome : Except InclusionError Text}

theorem permits_eq_true_iff : inclusion.permits path = true ↔ inclusion.Allows path := by
  cases hbase : inclusion.base with
  | none => simp [permits, Allows, hbase]
  | some base => simp [permits_iff hbase, Allows, hbase]

theorem exists_settles (inclusion : Inclusion) (files : FileSystem) (path : Path) :
    ∃ outcome, inclusion.Settles files path outcome := by
  by_cases hallowed : inclusion.Allows path
  · by_cases hfile : ∃ bytes, files.find path = some (.file bytes)
    · obtain ⟨bytes, hfile⟩ := hfile
      cases hreadable : files.readable path.names with
      | false => exact ⟨_, .unreadable hallowed hfile hreadable⟩
      | true =>
        by_cases hsmall : bytes.length ≤ inclusion.limit
        · by_cases htext : ∃ text, bytes = Utf8.encode text
          · obtain ⟨text, rfl⟩ := htext
            exact ⟨_, .included hallowed hfile hreadable hsmall⟩
          · exact ⟨_, .notUtf8 hallowed hfile hreadable hsmall fun text heq => htext ⟨text, heq⟩⟩
        · exact ⟨_, .tooLarge hallowed hfile hreadable (Int.not_le.1 hsmall)⟩
    · exact ⟨_, .missing hallowed fun bytes hbytes => hfile ⟨bytes, hbytes⟩⟩
  · exact ⟨_, .outside hallowed⟩

theorem readFile_of_bytesAt (h : inclusion.bytesAt files path = .ok bytes) :
    inclusion.readFile files path =
      match Utf8.decode bytes with
      | .error _ => .error (.notUtf8 path)
      | .ok text => .ok text.lineFed := by
  simp only [readFile, h, ← Text.unified_eq_lineFed]
  rfl

theorem readFile_of_bytesAt_error {error : InclusionError}
    (h : inclusion.bytesAt files path = .error error) : inclusion.readFile files path = .error error := by
  simp only [readFile, h]
  rfl

/-- The checks are made in their order. -/
theorem Settles.readFile_eq (h : inclusion.Settles files path outcome) :
    inclusion.readFile files path = outcome := by
  cases h with
  | outside hdenied =>
    have hpermits : inclusion.permits path = false := by
      rwa [← Bool.not_eq_true, permits_eq_true_iff]
    exact readFile_of_bytesAt_error (by simp [bytesAt, hpermits])
  | missing hallowed hnone =>
    have hpermits := permits_eq_true_iff.2 hallowed
    refine readFile_of_bytesAt_error ?_
    simp only [bytesAt, hpermits, Bool.not_true, Bool.false_eq_true, if_false]
  | unreadable hallowed hfile hreadable =>
    have hpermits := permits_eq_true_iff.2 hallowed
    exact readFile_of_bytesAt_error (by simp [bytesAt, hpermits, hfile, hreadable])
  | tooLarge hallowed hfile hreadable hlarge =>
    have hpermits := permits_eq_true_iff.2 hallowed
    exact readFile_of_bytesAt_error (by simp [bytesAt, hpermits, hfile, hreadable, hlarge])
  | @notUtf8 bytes hallowed hfile hreadable hsmall hinvalid =>
    have hpermits := permits_eq_true_iff.2 hallowed
    have hbytes : inclusion.bytesAt files path = .ok bytes := by
      simp [bytesAt, hpermits, hfile, hreadable, Int.not_lt.2 hsmall]
    rw [readFile_of_bytesAt hbytes]
    cases hdecode : Utf8.decode bytes with
    | error fault => rfl
    | ok text => exact absurd (Utf8.decode_eq_ok_iff.1 hdecode) (hinvalid text)
  | @included text hallowed hfile hreadable hsmall =>
    have hpermits := permits_eq_true_iff.2 hallowed
    have hbytes : inclusion.bytesAt files path = .ok (Utf8.encode text) := by
      simp [bytesAt, hpermits, hfile, hreadable, Int.not_lt.2 hsmall]
    rw [readFile_of_bytesAt hbytes, Utf8.decode_encode]

theorem readFile_eq_iff :
    inclusion.readFile files path = outcome ↔ inclusion.Settles files path outcome := by
  refine ⟨?_, Settles.readFile_eq⟩
  rintro rfl
  obtain ⟨outcome, h⟩ := inclusion.exists_settles files path
  exact h.readFile_eq ▸ h

theorem Settles.bounds {text : Text} (h : inclusion.Settles files path (.ok text)) :
    '\r' ∉ text ∧ (Utf8.encode text).length ≤ inclusion.limit := by
  cases h with
  | @included text _ _ _ hsmall =>
    have hshorter := Text.length_encode_lineFed_le text
    exact ⟨Text.return_notMem_lineFed text, by omega⟩

theorem reply_of_placeOf {world : World} {content : Text} (h : world.placeOf content = .ok path) :
    inclusion.reply world content = inclusion.readFile world.files path := by
  simp only [reply, h]
  rfl

theorem reply_of_placeOf_error {world : World} {content : Text} {error : InclusionError}
    (h : world.placeOf content = .error error) : inclusion.reply world content = .error error := by
  simp only [reply, h]
  rfl

/-- Without its blanks and with its `~` expanded a content names a place, and the first of the five checks that fails
there is the error. If none fails, the file is included, as a text without carriage returns that is no larger than
the limit. Only a content that asks for a user by a name with a NUL names no place. -/
theorem reply_exactly (inclusion : Inclusion) (world : World) (content : Text) :
    (¬ World.AsksForNul (content.trim Blank.isBlank) →
      ∃ named, world.expandHome (content.trim Blank.isBlank) = .ok named ∧
        ∀ outcome, inclusion.reply world content = outcome ↔
          inclusion.Settles world.files (Path.resolve world.directory named) outcome) ∧
    (World.AsksForNul (content.trim Blank.isBlank) →
      inclusion.reply world content = .error .nulInUserName) ∧
    ∀ text, inclusion.reply world content = .ok text →
      '\r' ∉ text ∧ (Utf8.encode text).length ≤ inclusion.limit := by
  refine ⟨fun hplain => ?_, fun hasks => ?_, fun text htext => ?_⟩
  · obtain ⟨named, hnamed⟩ := world.exists_expandHome hplain
    refine ⟨named, hnamed, fun outcome => ?_⟩
    rw [reply_of_placeOf (World.placeOf_of_expandHome hnamed), readFile_eq_iff]
  · exact reply_of_placeOf_error (World.placeOf_eq_error_iff.2 ⟨rfl, hasks⟩)
  · cases hplace : world.placeOf content with
    | error error =>
      rw [reply_of_placeOf_error hplace] at htext
      exact absurd htext (by simp)
    | ok path =>
      rw [reply_of_placeOf hplace, readFile_eq_iff] at htext
      exact htext.bounds

/-- What is said to the request for a user whose name is a NUL does not come from any of the checks, at any place. -/
theorem not_settles_reply_nul :
    confinedInclusion.reply workplace "~\x00".toList = .error .nulInUserName ∧
      InclusionError.nulInUserName.namesFile = false ∧
      ∀ path, ¬ confinedInclusion.Settles workplace.files path
        (confinedInclusion.reply workplace "~\x00".toList) := by
  have hreply : confinedInclusion.reply workplace "~\x00".toList = .error .nulInUserName := rfl
  refine ⟨hreply, rfl, fun path h => ?_⟩
  rw [hreply] at h
  cases h

end Inclusion

/-! ### Two slashes at the start of the base -/

/-- A text begins with two slashes and not with three. -/
def Root.IsDoubled (text : Text) : Prop :=
  ∃ rest, text = '/' :: '/' :: rest ∧ rest.head? ≠ some '/'

namespace Root

theorem ofText_eq_none_iff {text : Text} : ofText text = .none ↔ text.head? ≠ some '/' := by
  unfold ofText
  split
  · simp
  · simp
  · simp
  · next hother =>
    cases text with
    | nil => simp
    | cons c text => simpa using fun hc : c = '/' => hother text (hc ▸ rfl)

theorem ofText_eq_double_iff {text : Text} : ofText text = .double ↔ IsDoubled text := by
  constructor
  · unfold ofText
    split
    · simp
    · next rest hthree =>
      refine fun _ => ⟨rest, rfl, fun hhead => ?_⟩
      obtain ⟨tail, htail⟩ := List.head?_eq_some_iff.1 hhead
      exact hthree tail htail
    · simp
    · simp
  · rintro ⟨rest, rfl, hhead⟩
    unfold ofText
    split
    · next heq => simp_all
    · rfl
    · next htwo heq =>
      cases heq
      exact absurd rfl (htwo rest)
    · next hother => exact absurd rfl (hother _)

theorem ofText_eq_single_iff {text : Text} :
    ofText text = .single ↔ text.head? = some '/' ∧ ¬ IsDoubled text := by
  rw [← ofText_eq_double_iff, ← not_ne_iff (a := text.head?), ← ofText_eq_none_iff]
  cases ofText text <;> decide

end Root

/-- A place that is named with a slash at the start has the root that is written there, and any other has the root
of the directory that it is seen from. -/
theorem Path.root_resolve (directory : Path) (text : Text) :
    (Path.resolve directory text).root =
      if text.head? = some '/' then Root.ofText text else directory.root := by
  have hseen : (Path.resolve directory text).root =
      (Path.seenFrom directory (Path.ofText text)).root := rfl
  rw [hseen, Path.seenFrom, Path.ofText]
  by_cases hslash : text.head? = some '/'
  · rw [if_neg (mt Root.ofText_eq_none_iff.1 (not_ne_iff.2 hslash)), if_pos hslash]
  · rw [if_pos (Root.ofText_eq_none_iff.2 hslash), if_neg hslash]

namespace Inclusion

variable {inclusion : Inclusion} {world : World} {content : Text} {path place : Path}

theorem readFile_eq_outside_iff {files : FileSystem} :
    inclusion.readFile files path = .error (.outside place) ↔ path = place ∧ ¬ inclusion.Allows path := by
  rw [readFile_eq_iff]
  constructor
  · intro h
    cases h with
    | outside hdenied => exact ⟨rfl, hdenied⟩
  · rintro ⟨rfl, hdenied⟩
    exact .outside hdenied

theorem reply_eq_outside_iff :
    inclusion.reply world content = .error (.outside place) ↔
      world.placeOf content = .ok place ∧ ¬ inclusion.Allows place := by
  cases hplace : world.placeOf content with
  | error error =>
    rw [reply_of_placeOf_error hplace, (World.placeOf_eq_error_iff.1 hplace).1]
    simp
  | ok path =>
    rw [reply_of_placeOf hplace, readFile_eq_outside_iff]
    constructor
    · rintro ⟨rfl, hdenied⟩
      exact ⟨rfl, hdenied⟩
    · rintro ⟨hsame, hdenied⟩
      cases hsame
      exact ⟨rfl, hdenied⟩

/-- With a base directory a content is denied exactly if its place does not lie there, or if the base has other than
one slash at its start. This is so for a base that is written with exactly two slashes there, and for one that is
written without a slash and seen from such a directory. Nothing else in the spelling of the base matters. -/
theorem reply_outside_iff (made : World) (limit : Int) {base : Text} (hbase : base ≠ []) :
    (∀ world content place,
      (ofSettings made limit (some base)).reply world content = .error (.outside place) ↔
        world.placeOf content = .ok place ∧
          (¬ (Path.resolve made.directory base).names <+: place.names ∨
            (Path.resolve made.directory base).root ≠ .single)) ∧
    ((Path.resolve made.directory base).root = .single ↔
      if base.head? = some '/' then ¬ Root.IsDoubled base else made.directory.root = .single) := by
  constructor
  · intro world content place
    rw [reply_eq_outside_iff, Allows, base_ofSettings made limit hbase]
    simp only [Option.mem_def, Option.some.injEq, forall_eq', Decidable.not_and_iff_not_or_not]
    rw [or_comm]
  · rw [Path.root_resolve]
    split
    · next hslash => rw [Root.ofText_eq_single_iff, and_iff_right hslash]
    · exact Iff.rfl

/-- A base that is written in a roundabout way denies its neighbour and not the file in it. -/
theorem reply_outside_iff_workplace :
    "..//w/./base/".toList ≠ [] ∧
      (ofSettings workplace 8 (some "..//w/./base/".toList)).reply workplace "base2".toList =
        .error (.outside besideBase) ∧
      (∀ place, (ofSettings workplace 8 (some "..//w/./base/".toList)).reply workplace "base/f".toList ≠
        .error (.outside place)) ∧
      (Path.resolve workplace.directory "..//w/./base/".toList).root = .single := by
  have hne : "..//w/./base/".toList ≠ [] := by decide
  have hbeside : workplace.placeOf "base2".toList = .ok besideBase := rfl
  have hinside : workplace.placeOf "base/f".toList = .ok inBase := rfl
  obtain ⟨hdenied, hroot⟩ := reply_outside_iff workplace 8 hne
  have hsingle := hroot.2 rfl
  refine ⟨hne, (hdenied _ _ _).2 ⟨hbeside, .inl (by decide)⟩, fun place h => ?_, hsingle⟩
  obtain ⟨hplace, houtside⟩ := (hdenied _ _ _).1 h
  cases hinside.symm.trans hplace
  exact houtside.elim (fun hnames => hnames (by decide)) fun hother => hother hsingle

/-- The same base with two slashes at its start denies the file in it. -/
theorem reply_denied_below_doubled :
    "//w/base".toList ≠ [] ∧ workplace.placeOf "base/f".toList = .ok inBase ∧
      (Path.resolve workplace.directory "//w/base".toList).names <+: inBase.names ∧
      (ofSettings workplace 8 (some "//w/base".toList)).reply workplace "base/f".toList =
        .error (.outside inBase) :=
  ⟨by decide, rfl, by decide, rfl⟩

end Inclusion

end Stencil
