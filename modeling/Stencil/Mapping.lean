import Stencil.Text.Basic

/-!
A mapping, as the list of its entries in the order in which their keys first came. A key that comes again
keeps its place and takes the new entry. What a mapping is for is `get?`; the lemmas say what each
operation does to it, and nothing else about the list matters to a reader of the mapping, except where its
entries are shown in their order.
-/

namespace Stencil

/-- Entries under keys, no key twice. The keys are texts, unless it is said otherwise. -/
abbrev Mapping (α : Type) (κ : Type := Text) := List (κ × α)

namespace Mapping

variable {α κ : Type} [DecidableEq κ]

def get? (key : κ) : Mapping α κ → Option α
  | [] => none
  | (k, a) :: entries => if k = key then some a else get? key entries

def has (key : κ) (entries : Mapping α κ) : Bool :=
  (entries.get? key).isSome

/-- Puts an entry under a key, in the place of the old one if there is one and at the end otherwise. -/
def insert (key : κ) (value : α) : Mapping α κ → Mapping α κ
  | [] => [(key, value)]
  | (k, a) :: entries => if k = key then (k, value) :: entries else (k, a) :: insert key value entries

def erase (key : κ) : Mapping α κ → Mapping α κ
  | [] => []
  | (k, a) :: entries => if k = key then erase key entries else (k, a) :: erase key entries

/-- Puts the entries of a list into a mapping in turn, so that the last one under a key stays. -/
def insertAll (pairs : List (κ × α)) (entries : Mapping α κ) : Mapping α κ :=
  pairs.foldl (fun entries (key, value) => entries.insert key value) entries

def ofPairs (pairs : List (κ × α)) : Mapping α κ :=
  insertAll pairs []

def sorted (entries : Mapping α) : List (Text × α) :=
  List.mergeSort entries fun a b => a.1.atMost b.1

@[simp] theorem get?_nil (key : κ) : get? key ([] : Mapping α κ) = none := rfl

theorem get?_insert (entries : Mapping α κ) (key other : κ) (value : α) :
    get? other (insert key value entries) = if key = other then some value else get? other entries := by
  induction entries with
  | nil => simp [insert, get?]
  | cons entry entries ih =>
    obtain ⟨k, a⟩ := entry
    by_cases hk : k = key
    · subst hk
      by_cases ho : k = other <;> simp [insert, get?, ho]
    · by_cases ho : k = other
      · subst ho
        simp [insert, get?, hk, Ne.symm hk]
      · simp [insert, get?, hk, ho, ih]

theorem get?_erase (entries : Mapping α κ) (key other : κ) :
    get? other (erase key entries) = if key = other then none else get? other entries := by
  induction entries with
  | nil => simp [erase]
  | cons entry entries ih =>
    obtain ⟨k, a⟩ := entry
    by_cases hk : k = key
    · subst hk
      rw [show erase k ((k, a) :: entries) = erase k entries by simp [erase], ih]
      by_cases ho : k = other <;> simp [get?, ho]
    · by_cases ho : k = other
      · subst ho
        simp [erase, get?, hk, Ne.symm hk]
      · simp [erase, get?, hk, ho, ih]

end Mapping

end Stencil
