import Stencil.Surroundings.PictogramTable
import Stencil.Text.Basic
import Stencil.Text.Blank

/-!
Pictograms by name. A terminal shows a pictogram where its name stands between two colons. Capitals count
as their small letters. A name for a person or a hand may be followed by a tone of skin, and any name by
the wish to have it drawn in colours or as plain text. A name that is not known is left as it stands, with
its colons, and the second of them does not open another name.
-/

namespace Stencil.Surroundings

structure Pictogram where
  shown : Text
  name : Text
  /-- Whether a tone of skin may follow the name. -/
  takesTone : Bool

namespace Pictogram

def codePoint (digits : Text) : Nat :=
  digits.foldl (fun n c => 16 * n + (if c.isDigit then c.toNat - '0'.toNat else c.toNat - 'a'.toNat + 10)) 0

/-- The pictograms of an entry: its first word holds the code points, and a name stands in each further
word. -/
def ofEntry (entry : Text) : List Pictogram :=
  match (Text.pieces ' ' entry).filter fun word => !word.isEmpty with
  | [] => []
  | codePoints :: names =>
    let shown := (Text.pieces '-' codePoints).map fun digits => Char.ofNat (codePoint digits)
    names.map fun name => ⟨shown, name.filter (· ≠ '~'), name.contains '~'⟩

def known : List Pictogram :=
  (Text.pieces '\n' pictogramTable.toList).flatMap fun line => (Text.pieces ',' line).flatMap ofEntry

def colouredSign : Char := '\ufe0f'

def plainSign : Char := '\ufe0e'

def drawings : List (String × Char) :=
  [("-emoji", colouredSign), ("-text", plainSign)]

def tones : List (String × Char) :=
  [ ("_light_skin_tone", Char.ofNat 0x1f3fb), ("_medium-light_skin_tone", Char.ofNat 0x1f3fc),
    ("_medium_skin_tone", Char.ofNat 0x1f3fd), ("_medium-dark_skin_tone", Char.ofNat 0x1f3fe),
    ("_dark_skin_tone", Char.ofNat 0x1f3ff) ]

/-- The first ending in a list that the name has, as the name without it and what belongs to the ending. -/
def withoutEnding? (endings : List (String × Char)) (name : Text) : Option (Text × Char) :=
  endings.findSome? fun (ending, sign) =>
    (Text.after? ending.toList.reverse name.reverse).map fun start => (start.reverse, sign)

/-- A pictogram in a tone of skin. The tone stands behind the first character, in the place of the sign
that asks for colours. -/
def inTone (tone : Char) : Text → Text
  | [] => []
  | c :: shown => c :: tone :: (if shown.head? = some colouredSign then shown.tail else shown)

/-- The pictogram of a name in small letters. -/
def find? (name : Text) : Option Text :=
  match known.find? fun p => p.name = name with
  | some p => some p.shown
  | none => do
    let (start, tone) ← withoutEnding? tones name
    let p ← known.find? fun p => p.takesTone && p.name = start
    return inTone tone p.shown

/-- The small letters of a name. Outside ASCII the names hold no other letters than those of western
Europe, whose capitals stand thirty-two places before them; the sign for the angstrom is one more capital
of `å`. -/
def smallLetters (name : Text) : Text :=
  (Text.lowered name).map fun c =>
    if c = '\u212b' then 'å'
    else if 'À' ≤ c ∧ c ≤ 'Þ' then Char.ofNat (c.toNat + 32)
    else c

def ofName? (name : Text) : Option Text :=
  match withoutEnding? drawings name with
  | some (start, sign) => (find? (smallLetters start)).map fun shown => shown ++ [sign]
  | none => find? (smallLetters name)

/-- Puts pictograms in the place of their names. `pending` holds, last first, what was read since a colon
that may open a name. -/
def replaceFrom (pending : Option Text) : Text → Text
  | [] => pending.elim [] fun name => ':' :: name.reverse
  | c :: text =>
    match pending with
    | none => if c = ':' then replaceFrom (some []) text else c :: replaceFrom none text
    | some name =>
      if c = ':' then
        (ofName? name.reverse).getD (':' :: name.reverse ++ [':']) ++ replaceFrom none text
      else if Blank.isBlank c then ':' :: name.reverse ++ c :: replaceFrom none text
      else replaceFrom (some (c :: name)) text

def replaceNames (text : Text) : Text :=
  replaceFrom none text

end Pictogram

end Stencil.Surroundings
