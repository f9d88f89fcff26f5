import Stencil.Mapping
import Stencil.Path
import Stencil.Text.Utf8
import Stencil.Wording

/-!
What a run sees of the machine it runs on: files and directories, the directory it works in, the home
directories of users, and the wording of the libraries. It is a value, so that two runs can be compared in two
worlds, and nothing that is done here changes it; a session that writes a file goes on in another world.

There are two ways to a file. `FileSystem.find` takes a path without `..` and sees what lies there, if all
directories above it may be searched. `FileSystem.visit` follows a path name by name, as is right for a path
that has not been collapsed: `..` behind a name that is no directory leads nowhere. It begins where the run
works, whatever lies above, and it tells a directory that may not be searched from one in which a name is
missing. That something lies at the end of a path does not mean that it can be opened.
-/

namespace Stencil

inductive Entry
  | directory
  | file (bytes : Utf8.Bytes)
  deriving DecidableEq, Repr

/-- Files and directories by their names below the root, whether each of them may be opened to be read, and
whether names may be looked up in a directory. -/
structure FileSystem where
  item : List Text → Option Entry
  readable : List Text → Bool
  searchable : List Text → Bool

namespace FileSystem

def empty : FileSystem where
  item names := if names = [] then some .directory else none
  readable _ := true
  searchable _ := true

def put (files : FileSystem) (place : List Text) (entry : Option Entry) : FileSystem :=
  { files with item := fun names => if names = place then entry else files.item names }

def makeDirectories (files : FileSystem) (place : List Text) : FileSystem :=
  { files with item := fun names =>
      if names.isPrefixOf place ∧ (files.item names).isNone then some .directory
      else files.item names }

def write (files : FileSystem) (place : List Text) (bytes : Utf8.Bytes) : FileSystem :=
  (files.makeDirectories place.dropLast).put place (some (.file bytes))

def remove (files : FileSystem) (place : List Text) : FileSystem :=
  files.put place none

def forbid (files : FileSystem) (place : List Text) : FileSystem :=
  { files with readable := fun names => names ≠ place && files.readable names }

def close (files : FileSystem) (place : List Text) : FileSystem :=
  { files with searchable := fun names => names ≠ place && files.searchable names }

def isReachable (files : FileSystem) (names : List Text) : Bool :=
  (List.range names.length).all fun depth => files.searchable (names.take depth)

/-- What is seen at a place from the root. -/
def entry (files : FileSystem) (names : List Text) : Option Entry :=
  if files.isReachable names then files.item names else none

theorem item_put_of_ne {files : FileSystem} {place names : List Text} (h : names ≠ place)
    (entry : Option Entry) : (files.put place entry).item names = files.item names := by
  simp [put, h]

@[simp] theorem item_put_self (files : FileSystem) (place : List Text) (entry : Option Entry) :
    (files.put place entry).item place = entry := by
  simp [put]

@[simp] theorem searchable_put (files : FileSystem) (place : List Text) (entry : Option Entry) :
    (files.put place entry).searchable = files.searchable := rfl

theorem entry_put_of_ne {files : FileSystem} {place names : List Text} (h : names ≠ place)
    (entry : Option Entry) : (files.put place entry).entry names = files.entry names := by
  rw [FileSystem.entry, FileSystem.entry, item_put_of_ne h]
  rfl

/-! ### Names that no file can have -/

def maxName : Nat := 255

def maxPath : Nat := 4095

def holdsNul (path : Path) : Bool :=
  path.names.any fun name => name.contains '\x00'

def isAddressable (path : Path) : Bool :=
  !holdsNul path && path.text.byteCount ≤ maxPath &&
    path.names.all fun name => name.byteCount ≤ maxName

/-- What lies at the end of a path without `..`. -/
def find (files : FileSystem) (path : Path) : Option Entry :=
  if isAddressable path then files.entry path.names else none

/-! ### Following a path -/

inductive Absence
  | missing
  | forbidden
  | nameTooLong
  deriving DecidableEq, Repr

/-- Whether there is a directory at a place, and it may not be searched. -/
def isClosed (files : FileSystem) (place : List Text) : Bool :=
  files.item place = some .directory && !files.searchable place

def lookUp (files : FileSystem) (place : List Text) (name : Text) : Except Absence (List Text) :=
  if files.item place ≠ some .directory then .error .missing
  else if !files.searchable place then .error .forbidden
  else if name = Path.above then .ok place.dropLast
  else if maxName < name.byteCount then .error .nameTooLong
  else if (files.item (place ++ [name])).isNone then .error .missing
  else .ok (place ++ [name])

theorem eq_descend_of_lookUp {files : FileSystem} {place next : List Text} {name : Text}
    (h : files.lookUp place name = .ok next) : next = Path.descend place name := by
  unfold lookUp at h
  unfold Path.descend
  grind

theorem lookUp_of_not_directory {files : FileSystem} {place : List Text}
    (h : files.item place ≠ some .directory) (name : Text) : files.lookUp place name = .error .missing :=
  if_pos h

def follow (files : FileSystem) (place : List Text) : List Text → Except Absence (List Text)
  | [] => if (files.item place).isNone then .error .missing else .ok place
  | name :: names => do files.follow (← files.lookUp place name) names

def origin (directory path : Path) : List Text :=
  if path.root = .none then directory.names else []

/-- The place that a path leads to, seen from a directory. -/
def visit (files : FileSystem) (directory path : Path) : Except Absence (List Text) :=
  let start := origin directory path
  if holdsNul path then .error .missing
  else if maxPath < path.text.byteCount then .error .nameTooLong
  -- A path without a name asks for the directory by the name `.`, which is looked up as others are.
  else if path = ⟨.none, []⟩ ∧ files.isClosed start then .error .forbidden
  else files.follow start path.names

/-- What is had by opening the end of a path to read it. -/
def opened? (files : FileSystem) (directory path : Path) : Option Entry :=
  match files.visit directory path with
  | .ok place => if files.readable place then files.item place else none
  | .error _ => none

/-- The places that are looked at when names are followed from a place to their end. -/
def stations (place : List Text) : List Text → List (List Text)
  | [] => [place]
  | name :: names =>
    place :: stations (if name = Path.above then place.dropLast else place ++ [name]) names

end FileSystem

structure World where
  files : FileSystem
  directory : Path
  home : Text
  users : Mapping Text
  wording : Wording

end Stencil
