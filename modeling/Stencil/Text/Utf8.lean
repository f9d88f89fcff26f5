import Stencil.Text.Basic

/-!
Texts lie in files as UTF-8. Decoding is strict: a sequence that is longer than it need be, a surrogate
or a number past the last code point is a fault, and so is a sequence that breaks off. A fault is reported with the
bytes that could have begun a character, so the table of second bytes below is what both the decoder
and its reports rest on.

The decoder reads one byte at a time and is between two characters or inside one. This makes it a plain
recursion over the bytes, however long the file is.
-/

namespace Stencil.Utf8

abbrev Bytes := List UInt8

/-! ### Encoding -/

def continuation (n : Nat) : UInt8 :=
  UInt8.ofNat (0x80 + n % 0x40)

def encodeChar (c : Char) : Bytes :=
  let n := c.toNat
  if n < 0x80 then
    [UInt8.ofNat n]
  else if n < 0x800 then
    [UInt8.ofNat (0xc0 + n / 0x40), continuation n]
  else if n < 0x10000 then
    [UInt8.ofNat (0xe0 + n / 0x1000), continuation (n / 0x40), continuation n]
  else
    [UInt8.ofNat (0xf0 + n / 0x40000), continuation (n / 0x1000), continuation (n / 0x40),
      continuation n]

def encode (text : Text) : Bytes :=
  text.flatMap encodeChar

@[simp] theorem encode_nil : encode [] = [] := rfl

@[simp] theorem encode_cons (c : Char) (text : Text) :
    encode (c :: text) = encodeChar c ++ encode text := rfl

/-! ### Decoding -/

inductive Reason
  | invalidStart
  | invalidContinuation
  | unexpectedEnd
  deriving DecidableEq, Repr

/-- The first bytes of a file that are no text: where they begin, how many they are and what the first
of them is. -/
structure Fault where
  start : Nat
  count : Nat
  lead : UInt8
  reason : Reason
  deriving DecidableEq, Repr

/-- What a first byte promises: how many bytes are to follow it, the range of the one right behind it,
and the bits of the character that it holds itself. -/
structure Promise where
  missing : Nat
  low : Nat
  high : Nat
  value : Nat
  deriving DecidableEq, Repr

/-- The promise of a first byte that stands for more than itself. The ranges of the second byte leave
out what could be written shorter, the surrogates, and all beyond the last code point. -/
def promise? (lead : UInt8) : Option Promise :=
  let n := lead.toNat
  if n < 0xc2 then none
  else if n < 0xe0 then some ⟨1, 0x80, 0xbf, n - 0xc0⟩
  else if n = 0xe0 then some ⟨2, 0xa0, 0xbf, 0⟩
  else if n = 0xed then some ⟨2, 0x80, 0x9f, 0xd⟩
  else if n < 0xf0 then some ⟨2, 0x80, 0xbf, n - 0xe0⟩
  else if n = 0xf0 then some ⟨3, 0x90, 0xbf, 0⟩
  else if n < 0xf4 then some ⟨3, 0x80, 0xbf, n - 0xf0⟩
  else if n = 0xf4 then some ⟨3, 0x80, 0x8f, 4⟩
  else none

/-- A character of which some bytes have been read and some are missing. -/
structure Partial where
  start : Nat
  lead : UInt8
  count : Nat
  promise : Promise
  deriving DecidableEq, Repr

def Partial.fault (begun : Partial) (reason : Reason) : Fault :=
  ⟨begun.start, begun.count, begun.lead, reason⟩

/-- Decodes from byte number `position` on. `seen` holds the characters before, last first, and `begun`
the character that the decoder is inside of, if it is inside of one. -/
def decodeFrom (position : Nat) (seen : Text) : Option Partial → Bytes → Except Fault Text
  | none, [] => .ok seen.reverse
  | some begun, [] => .error (begun.fault .unexpectedEnd)
  | none, byte :: bytes =>
    if byte.toNat < 0x80 then
      decodeFrom (position + 1) (Char.ofNat byte.toNat :: seen) none bytes
    else
      match promise? byte with
      | none => .error ⟨position, 1, byte, .invalidStart⟩
      | some promise => decodeFrom (position + 1) seen (some ⟨position, byte, 1, promise⟩) bytes
  | some begun, byte :: bytes =>
    let ⟨missing, low, high, value⟩ := begun.promise
    if low ≤ byte.toNat ∧ byte.toNat ≤ high then
      let value := value * 0x40 + byte.toNat % 0x40
      if missing ≤ 1 then
        decodeFrom (position + 1) (Char.ofNat value :: seen) none bytes
      else
        decodeFrom (position + 1) seen
          (some { begun with count := begun.count + 1, promise := ⟨missing - 1, 0x80, 0xbf, value⟩ })
          bytes
    else
      .error (begun.fault .invalidContinuation)

def decode (bytes : Bytes) : Except Fault Text :=
  decodeFrom 0 [] none bytes

/-! ### Reports -/

def Reason.message : Reason → String
  | .invalidStart => "invalid start byte"
  | .invalidContinuation => "invalid continuation byte"
  | .unexpectedEnd => "unexpected end of data"

def hexByte (byte : UInt8) : String :=
  let digit (n : Nat) : Char := if n < 10 then Char.ofNat (48 + n) else Char.ofNat (87 + n)
  String.ofList [digit (byte.toNat / 16), digit (byte.toNat % 16)]

/-- The report on a fault: one byte is shown, of several only the places of the first and the last. -/
def Fault.message (fault : Fault) : String :=
  let which :=
    if fault.count = 1 then
      "byte 0x" ++ hexByte fault.lead ++ " in position " ++ toString fault.start
    else
      "bytes in position " ++ toString fault.start ++ "-" ++
        toString (fault.start + fault.count - 1)
  "'utf-8' codec can't decode " ++ which ++ ": " ++ fault.reason.message

end Stencil.Utf8
