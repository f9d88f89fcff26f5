import Stencil.Text.Basic

/-!
Paths, as lists of names below a root. A path is read from a text by dropping what says nothing: empty
names, which come from doubled slashes and from one at the end, and the name `.`. The name `..` says
something only together with the names before it; `Path.collapsed` takes it away, by the names alone and
without a look at any file.

A text that begins with exactly two slashes has a root of its own, which is kept wherever the path is
shown. No file lies below it that does not lie below the single slash, but a path below one of the roots
never lies inside a directory below the other.
-/

namespace Stencil

inductive Root
  | none
  | single
  | double
  deriving DecidableEq, Repr

def Root.text : Root → Text
  | .none => []
  | .single => ['/']
  | .double => ['/', '/']

/-- The root of a path that is written as this text: three slashes and more are as good as one. -/
def Root.ofText : Text → Root
  | '/' :: '/' :: '/' :: _ => .single
  | '/' :: '/' :: _ => .double
  | '/' :: _ => .single
  | _ => .none

/-- A root, and the names that lead from it to a place. -/
structure Path where
  root : Root
  names : List Text
  deriving DecidableEq, Repr

namespace Path

def here : Text := ['.']

def above : Text := ['.', '.']

def ofText (text : Text) : Path :=
  ⟨Root.ofText text, (text.pieces '/').filter fun name => name ≠ [] ∧ name ≠ here⟩

/-- A path as it is shown: the empty one is the directory itself. -/
def text (path : Path) : Text :=
  if path.root = .none ∧ path.names = [] then here
  else path.root.text ++ Text.join ['/'] path.names

/-- One more name behind names without `..`. There is nothing above a root. -/
def descend (names : List Text) (name : Text) : List Text :=
  if name = above then names.dropLast else names ++ [name]

/-- The names that are left when each `..` has taken away the name before it. -/
def collapse (names : List Text) : List Text :=
  names.foldl descend []

def seenFrom (directory path : Path) : Path :=
  if path.root = .none then ⟨directory.root, directory.names ++ path.names⟩ else path

def collapsed (path : Path) : Path :=
  ⟨path.root, collapse path.names⟩

def resolve (directory : Path) (text : Text) : Path :=
  (seenFrom directory (ofText text)).collapsed

def sharedNames : List Text → List Text → List Text
  | a :: as, b :: bs => if a = b then a :: sharedNames as bs else []
  | _, _ => []

/-- The deepest directory that two places lie in. Its root is a single slash, whatever theirs are. -/
def common (place other : Path) : Path :=
  ⟨.single, sharedNames place.names other.names⟩

/-- Whether a place lies inside a directory or is that directory: the deepest directory that they have in
common is then this one. The names decide, one by one, and not the letters, so that a neighbour with a
longer name is not inside. Below a double slash nothing is. -/
def isWithin (directory path : Path) : Bool :=
  common directory path == directory

theorem sharedNames_eq_left_iff {names others : List Text} :
    sharedNames names others = names ↔ names <+: others := by
  induction names generalizing others with
  | nil => simp [sharedNames]
  | cons name names ih =>
    cases others with
    | nil => simp [sharedNames]
    | cons other others =>
      by_cases h : name = other
      · simp [sharedNames, h, ih]
      · simp [sharedNames, h]

theorem isWithin_iff {directory path : Path} :
    isWithin directory path = true ↔ directory.root = .single ∧ directory.names <+: path.names := by
  obtain ⟨root, names⟩ := directory
  rw [isWithin, beq_iff_eq, common, Path.mk.injEq, sharedNames_eq_left_iff, @eq_comm _ Root.single]

theorem above_notMem_descend {names : List Text} {name : Text} (h : above ∉ names) :
    above ∉ descend names name := by
  unfold descend
  split
  · exact fun hmem => h (List.dropLast_subset _ hmem)
  · next hne => simpa [h] using fun heq => hne heq.symm

theorem above_notMem_foldl {names done : List Text} (h : above ∉ done) :
    above ∉ names.foldl descend done := by
  induction names generalizing done with
  | nil => exact h
  | cons name names ih => exact ih (above_notMem_descend h)

theorem above_notMem_collapsed (path : Path) : above ∉ path.collapsed.names :=
  above_notMem_foldl (by simp)

theorem above_notMem_resolve (directory : Path) (text : Text) :
    above ∉ (resolve directory text).names :=
  above_notMem_collapsed _

end Path

end Stencil
