import Stencil.Text.Blank
import Stencil.Value

/-!
What a setting may be given as. A truth value may come as a word or a number, and a whole number as a
text or a number with nothing behind its point, because the environment knows only texts. What a value
cannot be taken for is told apart by what it is: a thing of another kind, a text or number of the right
kind that does not say what it should, or a number that is too large.
-/

namespace Stencil

inductive Refusal
  | missing
  | empty
  | frozen
  | noText
  | noTruth
  | unclearTruth
  | noInteger
  | unclearInteger
  | fraction
  | notFinite
  | tooLong
  deriving DecidableEq, Repr

def Refusal.code : Refusal → String
  | .missing => "missing"
  | .empty => "value_error"
  | .frozen => "frozen_instance"
  | .noText => "string_type"
  | .noTruth => "bool_type"
  | .unclearTruth => "bool_parsing"
  | .noInteger => "int_type"
  | .unclearInteger => "int_parsing"
  | .fraction => "int_from_float"
  | .notFinite => "finite_number"
  | .tooLong => "int_parsing_size"

def Refusal.message : Refusal → String
  | .missing => "Field required"
  | .empty => "Value error, Delimiter tokens cannot be empty"
  | .frozen => "Instance is frozen"
  | .noText => "Input should be a valid string"
  | .noTruth => "Input should be a valid boolean"
  | .unclearTruth => "Input should be a valid boolean, unable to interpret input"
  | .noInteger => "Input should be a valid integer"
  | .unclearInteger => "Input should be a valid integer, unable to parse string as an integer"
  | .fraction => "Input should be a valid integer, got a number with a fractional part"
  | .notFinite => "Input should be a finite number"
  | .tooLong => "Unable to parse input string as an integer, exceeded maximum size"

/-! ### Numbers without a fraction -/

def Binary64.toInt? : Binary64 → Option Int
  | .finite negative significand exponent =>
    let size? : Option Nat :=
      if 0 ≤ exponent then some (significand * Nat.pow 2 exponent.toNat)
      else
        let unit := Nat.pow 2 (-exponent).toNat
        if significand % unit = 0 then some (significand / unit) else none
    size?.map fun size => if negative then -(size : Int) else size
  | _ => none

def wordBound : Nat := Nat.pow 2 63

def fitsWord (n : Int) : Bool :=
  -wordBound < n && n < wordBound

namespace Coercion

/-! ### Texts -/

def toText : Value → Except Refusal Text
  | .text value => .ok value
  | _ => .error .noText

def toText? : Value → Except Refusal (Option Text)
  | .null => .ok none
  | value => (toText value).map some

/-! ### Truth values -/

def falseWords : List Text :=
  ["0", "f", "n", "no", "off", "false"].map String.toList

def trueWords : List Text :=
  ["1", "t", "y", "on", "yes", "true"].map String.toList

def truthOfInt (n : Int) : Except Refusal Bool :=
  if n = 0 then .ok false else if n = 1 then .ok true else .error .unclearTruth

def toTruth : Value → Except Refusal Bool
  | .bool value => .ok value
  | .text value =>
    let word := value.map Char.toLower
    if falseWords.contains word then .ok false
    else if trueWords.contains word then .ok true
    else .error .unclearTruth
  | .int n => if -wordBound ≤ n ∧ n < wordBound then truthOfInt n else .error .noTruth
  | .float x =>
    match x.toInt? with
    | some n => if fitsWord n then truthOfInt n else .error .noTruth
    | none => .error .noTruth
  | _ => .error .noTruth

/-! ### Whole numbers -/

def dropPlus? : Text → Option Text
  | '+' :: '-' :: _ => none
  | '+' :: text => some text
  | text => some text

/-- Looks behind a zero, `last`, for the first character that counts: a minus sign, a digit other than
zero, or the zero before a point. A text of zeros ends in the one that counts. -/
def dropZerosFrom? (last : Char) : Text → Option Text
  | [] => some [last]
  | c :: text =>
    if c = '0' ∨ c = '_' then dropZerosFrom? c text
    else if ('1' ≤ c ∧ c ≤ '9') ∨ c = '-' then some (c :: text)
    else if c = '.' then some (last :: c :: text)
    else none

def dropZeros? : Text → Option Text
  | [] => none
  | c :: text =>
    if c = '0' then dropZerosFrom? c text
    else if ('1' ≤ c ∧ c ≤ '9') ∨ c = '-' then some (c :: text)
    else none

def dropFraction (text : Text) : Text :=
  let (whole, fraction) := text.span (· ≠ '.')
  match fraction with
  | '.' :: zero :: zeros => if (zero :: zeros).all (· == '0') then whole else text
  | _ => text

def hasDoubleUnderscore : Text → Bool
  | '_' :: '_' :: _ => true
  | _ :: text => hasDoubleUnderscore text
  | [] => false

def dropUnderscores (text : Text) : Text :=
  if text.head? = some '_' ∨ text.getLast? = some '_' ∨ hasDoubleUnderscore text then text
  else text.filter (· ≠ '_')

def isNatural : Text → Bool
  | [] => false
  | ['0'] => true
  | '0' :: _ => false
  | text => text.all fun c => '0' ≤ c && c ≤ '9'

def natural (digits : Text) : Nat :=
  digits.foldl (fun n c => n * 10 + (c.toNat - 48)) 0

def maxDigits : Nat := 4300

/-- Whether a text begins with a number that has too many digits. Zeros that lead are not looked behind. -/
def isOverlong (text : Text) : Bool :=
  let digits := match text with
    | '-' :: digits => digits
    | digits => digits
  digits.head? ≠ some '0' && maxDigits < (digits.takeWhile fun c => '0' ≤ c && c ≤ '9').length

/-- The whole number that a text is, when it is nothing but a minus sign, if there is one, and digits. -/
def plainInteger? : Text → Option Int
  | '-' :: digits => if isNatural digits then some (-(natural digits : Int)) else none
  | digits => if isNatural digits then some (natural digits : Int) else none

/-- The text of a number without what may stand in it for the eye: blanks around it, a plus sign, zeros
that lead it, a fraction of nothing, and underscores between its digits. A minus sign stays, and may also
stand behind the zeros. -/
def cleaned? (text : Text) : Option Text := do
  let text ← dropPlus? (text.trim Blank.isWhiteSpace)
  match text with
  | '-' :: digits => return '-' :: dropUnderscores (dropFraction (← dropZeros? digits))
  | digits => return dropUnderscores (dropFraction (← dropZeros? digits))

/-- The whole number that a text writes. Only the text as it is given counts as too long: one that has to
be cleaned first, and is too long then, is not understood. -/
def integerOfText (text : Text) : Except Refusal Int :=
  if isOverlong text then .error .tooLong
  else match plainInteger? text with
    | some n => .ok n
    | none =>
      match (cleaned? text).filter (!isOverlong ·) with
      | none => .error .unclearInteger
      | some clean =>
        match plainInteger? clean with
        | some n => .ok n
        | none => .error .unclearInteger

/-- A whole number is given as one, as a truth value, as a number with nothing behind its point, or as a
text. -/
def toInteger : Value → Except Refusal Int
  | .int n => .ok n
  | .bool value => .ok (if value then 1 else 0)
  | .float .notANumber => .error .notFinite
  | .float (.infinite _) => .error .notFinite
  | .float x =>
    match x.toInt? with
    | some n => if fitsWord n then .ok n else .error .tooLong
    | none => .error .fraction
  | .text value => integerOfText value
  | _ => .error .noInteger

end Coercion

end Stencil
