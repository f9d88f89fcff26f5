/-!
Text is a list of code points. Markers, separators and keys are found in it as plain substrings, never
as patterns, so the one search that everything else stands on is the search for the first occurrence of
a substring. It is stated here once, as a cut of the text into what stands before the occurrence and
what stands behind it; `cut?_eq_some` says that the cut loses nothing and `length_of_cut?` is what every
recursion over the rest of a text ends by.
-/

namespace Stencil

abbrev Text := List Char

namespace Text

/-- The character that takes away the meaning of the marker behind it. -/
def escape : Char := '\\'

/-! ### Substrings -/

def after? : Text → Text → Option Text
  | [], text => some text
  | _ :: _, [] => none
  | s :: start, c :: text => if s = c then after? start text else none

@[simp] theorem after?_nil (text : Text) : after? [] text = some text := by
  cases text <;> rfl

theorem after?_eq_some_iff {start text rest : Text} :
    after? start text = some rest ↔ text = start ++ rest := by
  induction start generalizing text with
  | nil => simp [eq_comm]
  | cons s start ih =>
    cases text with
    | nil => simp [after?]
    | cons c text =>
      by_cases h : s = c
      · simp [after?, h, ih]
      · simp [after?, h, Ne.symm h]

@[simp] theorem after?_append (start rest : Text) : after? start (start ++ rest) = some rest :=
  after?_eq_some_iff.2 rfl

/-- Looks for `part` at every place of the text in turn; `seen` holds, last first, the characters that
were passed over. -/
def cutFrom? (part seen : Text) : Text → Option (Text × Text)
  | [] => (after? part []).map fun rest => (seen.reverse, rest)
  | c :: text =>
    match after? part (c :: text) with
    | some rest => some (seen.reverse, rest)
    | none => cutFrom? part (c :: seen) text

/-- The first occurrence of `part`, as the text before it and the text behind it. The empty part occurs
at the very start of every text. -/
def cut? (part text : Text) : Option (Text × Text) :=
  cutFrom? part [] text

theorem cutFrom?_eq_some {part seen text before after : Text}
    (h : cutFrom? part seen text = some (before, after)) :
    seen.reverse ++ text = before ++ part ++ after := by
  induction text generalizing seen with
  | nil =>
    simp only [cutFrom?, Option.map_eq_some_iff, Prod.mk.injEq] at h
    obtain ⟨rest, hrest, rfl, rfl⟩ := h
    rw [after?_eq_some_iff.1 hrest, List.append_assoc]
  | cons c text ih =>
    rw [cutFrom?] at h
    split at h
    · next rest hrest =>
      simp only [Option.some.injEq, Prod.mk.injEq] at h
      obtain ⟨rfl, rfl⟩ := h
      rw [after?_eq_some_iff.1 hrest, List.append_assoc]
    · simpa using ih h

/-- A cut loses nothing: the two sides with the part between them are the text. -/
theorem cut?_eq_some {part text before after : Text} (h : cut? part text = some (before, after)) :
    text = before ++ part ++ after := by
  simpa using cutFrom?_eq_some h

theorem length_of_cut? {part text before after : Text} (h : cut? part text = some (before, after)) :
    after.length + part.length ≤ text.length := by
  have := congrArg List.length (cut?_eq_some h)
  simp only [List.length_append] at this
  omega

theorem length_lt_of_cut? {part text before after : Text} (hpart : part ≠ [])
    (h : cut? part text = some (before, after)) : after.length < text.length := by
  have := length_of_cut? h
  have := List.length_pos_iff.2 hpart
  omega

/-! ### Pieces between separators -/

def endsInEscape (text : Text) : Bool :=
  text.getLast? == some escape

def pieces (separator : Char) (text : Text) : List Text :=
  let (piece, pieces) := text.foldr
    (fun c (piece, pieces) => if c = separator then ([], piece :: pieces) else (c :: piece, pieces))
    (([] : Text), ([] : List Text))
  piece :: pieces

def join (joint : Text) (pieces : List Text) : Text :=
  (pieces.intersperse joint).flatten

/-- The pieces with a reply behind each of them, as far as there are replies. -/
def weave : List Text → List Text → Text
  | [], _ => []
  | piece :: pieces, [] => piece ++ weave pieces []
  | piece :: pieces, reply :: replies => piece ++ reply ++ weave pieces replies

/-- The text with every ASCII capital replaced by its small letter; the Kelvin sign, whose small letter
is the ASCII `k`, is the one other character with a small letter in ASCII. -/
def lowered (text : Text) : Text :=
  text.map fun c => if c = '\u212a' then 'k' else c.toLower

def byteCount (text : Text) : Nat :=
  text.foldl (fun n c => n + c.utf8Size) 0

def atMost : Text → Text → Bool
  | [], _ => true
  | _ :: _, [] => false
  | a :: as, b :: bs => if a = b then atMost as bs else decide (a.val < b.val)

end Text

end Stencil
