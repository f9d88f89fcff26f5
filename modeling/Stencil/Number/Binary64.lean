/-!
Floating-point numbers of 64 bits, as numbers and not as machine words: a finite one is a significand
times a power of two. All that is done with them here is to read them from decimals, so the one
operation is to round an exact fraction to the nearest of them, a tie going to the even significand. It
is carried out on natural numbers.
-/

namespace Stencil

/-- A number of 64 bits. A significand is below `2 ^ 53`, and a power of two is at least `2 ^ (-1074)`. -/
inductive Binary64
  | finite (negative : Bool) (significand : Nat) (exponent : Int)
  | infinite (negative : Bool)
  | notANumber
  deriving DecidableEq, Repr

namespace Binary64

def leastExponent : Int := -1074

def greatestExponent : Int := 971

def precision : Nat := 53

def leastFull : Nat := Nat.pow 2 (precision - 1)

/-- The whole number nearest to a fraction, an even one if two are nearest. -/
def roundHalfEven (numerator denominator : Nat) : Nat :=
  let whole := numerator / denominator
  let twice := 2 * (numerator % denominator)
  if twice < denominator then whole
  else if denominator < twice then whole + 1
  else whole + whole % 2

def overTwo (numerator denominator : Nat) (exponent : Int) : Nat × Nat :=
  if 0 ≤ exponent then (numerator, denominator * Nat.pow 2 exponent.toNat)
  else (numerator * Nat.pow 2 (-exponent).toNat, denominator)

/-- The unit in which a positive fraction has a full significand, or the least unit that there is. -/
def unitOf (numerator denominator : Nat) : Int :=
  let guess : Int := numerator.log2 - denominator.log2 - (precision - 1 : Nat)
  let (n, d) := overTwo numerator denominator guess
  let exponent := if n < d * leastFull then guess - 1 else guess
  max exponent leastExponent

def ofFraction (negative : Bool) (numerator denominator : Nat) : Binary64 :=
  let exponent := unitOf numerator denominator
  let (n, d) := overTwo numerator denominator exponent
  let significand := roundHalfEven n d
  let (significand, exponent) :=
    if significand = 2 * leastFull then (leastFull, exponent + 1)
    else (significand, exponent)
  if greatestExponent < exponent then .infinite negative
  else .finite negative significand exponent

def decimalLength (n : Nat) : Nat :=
  (Nat.toDigits 10 n).length

/-- The number nearest to `digits * 10 ^ power`. Decimals past the range of the finite numbers are
decided by their length, before a power of ten is formed that would fill the memory. -/
def ofDecimal (negative : Bool) (digits : Nat) (power : Int) : Binary64 :=
  let length : Int := decimalLength digits + power
  if digits = 0 ∨ length ≤ -324 then .finite negative 0 leastExponent
  else if 310 ≤ length then .infinite negative
  else if 0 ≤ power then ofFraction negative (digits * Nat.pow 10 power.toNat) 1
  else ofFraction negative digits (Nat.pow 10 (-power).toNat)

end Binary64

end Stencil
