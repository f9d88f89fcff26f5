import Stencil.Text.Quoted

/-!
The strings of a document. A character beyond the first sixty-five thousand may be written as two numbers that
stand for it together. A document may hold half of such a pair alone. A string with a half in it is no text and
equal to none, so that nothing that a text asks for is found under it; still it is a string of its own and can
be shown.
-/

namespace Stencil

def isHighHalf (n : Nat) : Bool :=
  0xd800 ≤ n && n ≤ 0xdbff

def isLowHalf (n : Nat) : Bool :=
  0xdc00 ≤ n && n ≤ 0xdfff

def isHalf (n : Nat) : Bool :=
  isHighHalf n || isLowHalf n

/-- A string: a text, or numbers of characters with halves among them that stand alone. -/
inductive Str
  | text (text : Text)
  | torn (points : List Nat)
  deriving DecidableEq, Repr

namespace Str

/-- The numbers of characters with each half next to its other half joined to it. -/
def joinHalves : List Nat → List Nat
  | [] => []
  | [n] => [n]
  | high :: low :: units =>
    if isHighHalf high && isLowHalf low then
      (0x10000 + (high - 0xd800) * 0x400 + (low - 0xdc00)) :: joinHalves units
    else
      high :: joinHalves (low :: units)

def ofPoints (points : List Nat) : Str :=
  if points.any isHalf then .torn points else .text (points.map Char.ofNat)

/-- The string with these numbers in it, some of which may be halves. -/
def ofUnits (units : List Nat) : Str :=
  ofPoints (joinHalves units)

def text? : Str → Option Text
  | .text value => some value
  | .torn _ => none

/-- Numbers of characters as a text, with `standIn` for each half. -/
def fillHalves (standIn : Text) (points : List Nat) : Text :=
  points.flatMap fun n => if isHalf n then standIn else [Char.ofNat n]

def quoted : Str → Text
  | .text value => value.quoted
  | .torn points =>
    let quote := Text.quoteFor (fillHalves [] points)
    quote :: (points.flatMap fun n =>
      if isHalf n then '\\' :: 'u' :: Text.hex 4 n else Text.quotedChar quote (Char.ofNat n)) ++ [quote]

end Str

end Stencil
