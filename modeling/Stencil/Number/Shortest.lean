import Stencil.Text.Basic
import Stencil.Number.Binary64

/-!
The shortest decimal of a number: the fewest digits that read back as the same number, and of several
decimals with that many digits the nearest. For each count of digits only the two decimals next to the
number need to be tried, since the decimals that read back as one number form an interval around it.
Seventeen digits always suffice.
-/

namespace Stencil

namespace Binary64

structure Decimal where
  digits : Nat
  power : Int
  deriving DecidableEq, Repr

def overTen (numerator denominator : Nat) (power : Int) : Nat × Nat :=
  if 0 ≤ power then (numerator, denominator * Nat.pow 10 power.toNat)
  else (numerator * Nat.pow 10 (-power).toNat, denominator)

/-- The greatest power of ten that is not above a positive fraction, whose binary logarithm lies between
`log` and `log + 1`. -/
def tenPower (numerator denominator : Nat) (log : Int) : Int :=
  let guess := Int.fdiv (log * 30103) 100000
  let (n, d) := overTen numerator denominator guess
  if n < d then guess - 1
  else if 10 * d ≤ n then guess + 1
  else guess

/-- The decimal in steps of `10 ^ power` that reads back as the positive number `significand * 2 ^ exponent`,
if one of the two next to it does. -/
def decimalAt? (significand : Nat) (exponent power : Int) : Option Decimal :=
  let (numerator, denominator) := overTwo significand 1 (-exponent)
  let (n, d) := overTen numerator denominator power
  let below := n / d
  let readsBack (digits : Nat) : Bool :=
    digits ≠ 0 && ofDecimal false digits power == .finite false significand exponent
  match readsBack below, readsBack (below + 1) with
  | true, true => some ⟨roundHalfEven n d, power⟩
  | true, false => some ⟨below, power⟩
  | false, true => some ⟨below + 1, power⟩
  | false, false => none

/-- The shortest decimal that reads back as the positive number `significand * 2 ^ exponent`. -/
def shortest (significand : Nat) (exponent : Int) : Decimal :=
  let (numerator, denominator) := overTwo significand 1 (-exponent)
  let top := tenPower numerator denominator (significand.log2 + exponent)
  let found := (List.range 17).findSome? fun (n : Nat) => decimalAt? significand exponent (top - n)
  found.getD ⟨0, 0⟩

/-- The digits without the zeros at their end, as a text, and the place of the point, counted from the
first digit. -/
def Decimal.pointed (decimal : Decimal) : Text × Int :=
  let digits := Nat.toDigits 10 decimal.digits
  ((digits.reverse.dropWhile (· == '0')).reverse, decimal.power + digits.length)

def positional (digits : Text) (point : Int) : Text :=
  if point ≤ 0 then
    ['0', '.'] ++ List.replicate (-point).toNat '0' ++ digits
  else
    let whole := digits.take point.toNat
    let fraction := digits.drop point.toNat
    whole ++ List.replicate (point.toNat - digits.length) '0' ++ ['.'] ++
      (if fraction = [] then ['0'] else fraction)

/-- A decimal with its point behind the first digit and the power of ten behind an `e`, in at least two
digits and with its sign. -/
def scientific (digits : Text) (point : Int) : Text :=
  let power := point - 1
  let size := Nat.toDigits 10 power.natAbs
  let fraction := digits.drop 1
  digits.take 1 ++ (if fraction = [] then [] else '.' :: fraction) ++ ['e'] ++
    (if power < 0 then ['-'] else ['+']) ++ (if size.length < 2 then '0' :: size else size)

def lastPlace : Int := 16

def firstPlace : Int := -3

/-- The text of a number: its shortest decimal, written out if its point lies between `firstPlace` and
`lastPlace` and with a power of ten otherwise. -/
def display : Binary64 → Text
  | .notANumber => ['n', 'a', 'n']
  | .infinite negative => (if negative then ['-'] else []) ++ ['i', 'n', 'f']
  | .finite negative significand exponent =>
    let size :=
      if significand = 0 then
        positional [] 0 ++ ['0']
      else
        let (digits, point) := (shortest significand exponent).pointed
        if firstPlace ≤ point ∧ point ≤ lastPlace then positional digits point
        else scientific digits point
    (if negative then ['-'] else []) ++ size

end Binary64

end Stencil
