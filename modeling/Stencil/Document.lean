import Stencil.Text.Lines
import Stencil.Value

/-!
Reading a JSON document. The reader goes through the text once, from left to right, and stops at the
first flaw, so that a report names the first place at which the text cannot go on. It takes three words
that the standard does not have, for the numbers that are not finite, and it refuses whole numbers that
are too long to be turned into a number in reasonable time.

A flaw carries the number of characters left behind it. The place in the text is worked out at the end,
where the whole text is known.
-/

namespace Stencil.Document

/-! ### Flaws -/

inductive Flaw
  | noValue
  | noName
  | noColon
  | noComma
  | extra
  | unterminated
  | control
  | badEscape
  | badHex
  | byteOrderMark
  deriving DecidableEq, Repr

/-- Why a document cannot be read: a flaw, with the number of characters from it to the end of the text,
or a whole number with too many digits. -/
inductive Fault
  | malformed (flaw : Flaw) (left : Nat)
  | longInteger (digits : Nat)
  deriving DecidableEq, Repr

def Flaw.message : Flaw → String
  | .noValue => "Expecting value"
  | .noName => "Expecting property name enclosed in double quotes"
  | .noColon => "Expecting ':' delimiter"
  | .noComma => "Expecting ',' delimiter"
  | .extra => "Extra data"
  | .unterminated => "Unterminated string starting at"
  | .control => "Invalid control character at"
  | .badEscape => "Invalid \\escape"
  | .badHex => "Invalid \\uXXXX escape"
  | .byteOrderMark => "Unexpected UTF-8 BOM (decode using utf-8-sig)"

def maxDigits : Nat := 4300

def Fault.message (text : Text) : Fault → String
  | .malformed flaw left =>
    let offset := text.length - left
    let place := text.place offset
    flaw.message ++ ": line " ++ toString place.line ++ " column " ++ toString place.column ++
      " (char " ++ toString offset ++ ")"
  | .longInteger digits =>
    "Exceeds the limit (" ++ toString maxDigits ++
      " digits) for integer string conversion: value has " ++ toString digits ++
      " digits; use sys.set_int_max_str_digits() to increase the limit"

/-- Reports a flaw at the start of `rest`. -/
def flawAt {α : Type} (flaw : Flaw) (rest : Text) : Except Fault α :=
  .error (.malformed flaw rest.length)

/-! ### Gaps -/

def isGap (c : Char) : Bool :=
  c = ' ' || c = '\t' || c = '\n' || c = '\r'

def skipGap (text : Text) : Text :=
  text.dropWhile isGap

/-! ### Strings -/

def hexValue? (c : Char) : Option Nat :=
  if '0' ≤ c ∧ c ≤ '9' then some (c.toNat - 48)
  else if 'a' ≤ c ∧ c ≤ 'f' then some (c.toNat - 87)
  else if 'A' ≤ c ∧ c ≤ 'F' then some (c.toNat - 55)
  else none

def hexValue4? (a b c d : Char) : Option Nat := do
  return (((← hexValue? a) * 16 + (← hexValue? b)) * 16 + (← hexValue? c)) * 16 + (← hexValue? d)

def escaped? (c : Char) : Option Char :=
  if c = '"' ∨ c = '\\' ∨ c = '/' then some c
  else if c = 'b' then some '\x08'
  else if c = 'f' then some '\x0c'
  else if c = 'n' then some '\n'
  else if c = 'r' then some '\r'
  else if c = 't' then some '\t'
  else none

/-- The rest of a string whose opening quote has `left` characters from it to the end of the text. The
numbers of the characters read so far are in `seen`, last first. -/
def stringFrom (left : Nat) (seen : List Nat) : Text → Except Fault (Str × Text)
  | [] => .error (.malformed .unterminated left)
  | '"' :: rest => .ok (.ofUnits seen.reverse, rest)
  | ['\\'] => .error (.malformed .unterminated left)
  | '\\' :: 'u' :: a :: b :: c :: d :: e :: rest =>
    match hexValue4? a b c d with
    | none => flawAt .badHex ('u' :: a :: b :: c :: d :: e :: rest)
    | some n => stringFrom left (n :: seen) (e :: rest)
  | '\\' :: 'u' :: rest => flawAt .badHex ('u' :: rest)
  | '\\' :: c :: rest =>
    match escaped? c with
    | none => flawAt .badEscape ('\\' :: c :: rest)
    | some c => stringFrom left (c.toNat :: seen) rest
  | c :: rest =>
    if c.toNat < 0x20 then flawAt .control (c :: rest) else stringFrom left (c.toNat :: seen) rest

def string (rest : Text) : Except Fault (Str × Text) :=
  stringFrom (rest.length + 1) [] rest

/-! ### Numbers -/

def isDigit (c : Char) : Bool :=
  '0' ≤ c && c ≤ '9'

def digitsValue (digits : Text) : Nat :=
  digits.foldl (fun n c => n * 10 + (c.toNat - 48)) 0

def digitRun (text : Text) : Text × Text :=
  text.span isDigit

def wholePart? : Text → Option (Text × Text)
  | '0' :: rest => some (['0'], rest)
  | text =>
    match digitRun text with
    | ([], _) => none
    | run => some run

def fractionPart (text : Text) : Option Text × Text :=
  match text with
  | '.' :: rest =>
    match digitRun rest with
    | ([], _) => (none, text)
    | (digits, rest) => (some digits, rest)
  | _ => (none, text)

def powerPart (text : Text) : Option Int × Text :=
  match text with
  | c :: rest =>
    if c = 'e' ∨ c = 'E' then
      let (negative, digits) : Bool × Text := match rest with
        | '-' :: digits => (true, digits)
        | '+' :: digits => (false, digits)
        | digits => (false, digits)
      match digitRun digits with
      | ([], _) => (none, text)
      | (digits, rest) =>
        let size : Int := digitsValue digits
        (some (if negative then -size else size), rest)
    else (none, text)
  | [] => (none, text)

def unsigned? (negative : Bool) (text : Text) : Option (Except Fault (Value × Text)) := do
  let (whole, rest) ← wholePart? text
  let (fraction, rest) := fractionPart rest
  let (power, rest) := powerPart rest
  if fraction.isNone ∧ power.isNone then
    if maxDigits < whole.length then
      return .error (.longInteger whole.length)
    let size : Int := digitsValue whole
    return .ok (.int (if negative then -size else size), rest)
  let decimals := fraction.getD []
  return .ok (.float (.ofDecimal negative (digitsValue (whole ++ decimals))
    (power.getD 0 - decimals.length)), rest)

def number? : Text → Option (Except Fault (Value × Text))
  | '-' :: text => unsigned? true text
  | text => unsigned? false text

/-! ### Values -/

def words : List (Text × Value) :=
  [ ("null".toList, .null), ("true".toList, .bool true), ("false".toList, .bool false),
    ("NaN".toList, .float .notANumber), ("Infinity".toList, .float (.infinite false)),
    ("-Infinity".toList, .float (.infinite true)) ]

def scalar (text : Text) : Except Fault (Value × Text) :=
  match words.findSome? fun (word, value) => (Text.after? word text).map fun rest => (value, rest) with
  | some found => .ok found
  | none => (number? text).getD (flawAt .noValue text)

mutual

def valueFrom : Nat → Text → Except Fault (Value × Text)
  | 0, text => flawAt .noValue text
  | _ + 1, '"' :: rest => (string rest).map fun (found, rest) => (.ofStr found, rest)
  | fuel + 1, '[' :: rest =>
    match skipGap rest with
    | ']' :: rest => .ok (.list [], rest)
    | rest => (itemsFrom fuel rest).map fun (items, rest) => (.list items, rest)
  | fuel + 1, '{' :: rest =>
    match skipGap rest with
    | '}' :: rest => .ok (.object [], rest)
    | rest => (membersFrom fuel rest).map fun (members, rest) =>
        (.object (Mapping.ofPairs members), rest)
  | _ + 1, text => scalar text

def itemsFrom : Nat → Text → Except Fault (List Value × Text)
  | 0, text => flawAt .noValue text
  | fuel + 1, text => do
    let (item, rest) ← valueFrom fuel text
    match skipGap rest with
    | ']' :: rest => return ([item], rest)
    | ',' :: rest =>
      let (items, rest) ← itemsFrom fuel (skipGap rest)
      return (item :: items, rest)
    | rest => flawAt .noComma rest

def membersFrom : Nat → Text → Except Fault (List (Str × Value) × Text)
  | 0, text => flawAt .noValue text
  | fuel + 1, '"' :: rest => do
    let (name, rest) ← string rest
    match skipGap rest with
    | ':' :: rest =>
      let (value, rest) ← valueFrom fuel (skipGap rest)
      match skipGap rest with
      | '}' :: rest => return ([(name, value)], rest)
      | ',' :: rest =>
        let (members, rest) ← membersFrom fuel (skipGap rest)
        return ((name, value) :: members, rest)
      | rest => flawAt .noComma rest
    | rest => flawAt .noColon rest
  | _ + 1, text => flawAt .noName text

end

/-- More fuel than a text can use up: two steps of the reader at least go on by one character. -/
def fuelFor (text : Text) : Nat :=
  2 * text.length + 2

/-- The value that a document holds, which is all there is in it but gaps. -/
def read (text : Text) : Except Fault Value := do
  if text.head? = some '\ufeff' then
    flawAt .byteOrderMark text
  let (value, rest) ← valueFrom (fuelFor text) (skipGap text)
  match skipGap rest with
  | [] => return value
  | rest => flawAt .extra rest

end Stencil.Document
