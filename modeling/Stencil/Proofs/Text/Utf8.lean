import Stencil.Text.Utf8
import Mathlib.Tactic.Common

/-!
Decoding undoes encoding, and it accepts nothing else (`decode_eq_ok_iff`). The decoder goes byte by byte, so the
step of the argument is one byte: a first byte promises what its character needs, and each byte behind it keeps the
promise. Where the table of second bytes has a narrower range, the character is one that cannot be written shorter
and is no surrogate. Read the other way round, bytes that keep a promise of the table are the encoding of one
character (`Keeps.encodeChar`).
-/

namespace Stencil.Utf8

variable {position : Nat} {seen : Text} {bytes : Bytes}

theorem toNat_continuation (n : Nat) : (continuation n).toNat = 0x80 + n % 0x40 := by
  rw [continuation, UInt8.toNat_ofNat']
  omega

theorem toNat_ofNat_of_lt {n : Nat} (h : n < 0x100) : (UInt8.ofNat n).toNat = n := by
  rw [UInt8.toNat_ofNat']
  omega

def Partial.next (begun : Partial) (n : Nat) : Partial :=
  { begun with
    count := begun.count + 1
    promise := ⟨begun.promise.missing - 1, 0x80, 0xbf, begun.promise.value * 0x40 + n % 0x40⟩ }

theorem decodeFrom_continuation {begun : Partial} {n : Nat} (hlow : begun.promise.low ≤ 0x80 + n % 0x40)
    (hhigh : 0x80 + n % 0x40 ≤ begun.promise.high) (hmissing : 1 < begun.promise.missing) :
    decodeFrom position seen (some begun) (continuation n :: bytes) =
      decodeFrom (position + 1) seen (some (begun.next n)) bytes := by
  obtain ⟨start, lead, count, missing, low, high, value⟩ := begun
  have hmod : (0x80 + n % 0x40) % 0x40 = n % 0x40 := by omega
  simp only at hlow hhigh hmissing
  rw [decodeFrom]
  simp only [toNat_continuation]
  rw [if_pos ⟨hlow, hhigh⟩, if_neg (by omega), hmod]
  rfl

theorem decodeFrom_last {begun : Partial} {n : Nat} (hlow : begun.promise.low ≤ 0x80 + n % 0x40)
    (hhigh : 0x80 + n % 0x40 ≤ begun.promise.high) (hmissing : begun.promise.missing = 1) :
    decodeFrom position seen (some begun) (continuation n :: bytes) =
      decodeFrom (position + 1) (Char.ofNat (begun.promise.value * 0x40 + n % 0x40) :: seen) none bytes := by
  obtain ⟨start, lead, count, missing, low, high, value⟩ := begun
  have hmod : (0x80 + n % 0x40) % 0x40 = n % 0x40 := by omega
  simp only at hlow hhigh hmissing
  rw [decodeFrom]
  simp only [toNat_continuation]
  rw [if_pos ⟨hlow, hhigh⟩, if_pos (by omega), hmod]

theorem decodeFrom_lead {lead : UInt8} {promise : Promise} (hlead : 0x80 ≤ lead.toNat)
    (hpromise : promise? lead = some promise) :
    decodeFrom position seen none (lead :: bytes) =
      decodeFrom (position + 1) seen (some ⟨position, lead, 1, promise⟩) bytes := by
  rw [decodeFrom, if_neg (by omega), hpromise]

/-! ### The promises of first bytes -/

theorem promise?_two {n : Nat} (hlow : 0x80 ≤ n) (hhigh : n < 0x800) :
    promise? (UInt8.ofNat (0xc0 + n / 0x40)) = some ⟨1, 0x80, 0xbf, n / 0x40⟩ := by
  have hbyte : (UInt8.ofNat (0xc0 + n / 0x40)).toNat = 0xc0 + n / 0x40 := toNat_ofNat_of_lt (by omega)
  simp only [promise?, hbyte]
  rw [if_neg (by omega), if_pos (by omega), Nat.add_sub_cancel_left]

/-- The second byte of three is in its range, since the character needs three bytes and is no surrogate. -/
theorem promise?_three {n : Nat} (hlow : 0x800 ≤ n) (hhigh : n < 0x10000)
    (hvalid : n < 0xd800 ∨ 0xdfff < n) :
    ∃ low high, promise? (UInt8.ofNat (0xe0 + n / 0x1000)) = some ⟨2, low, high, n / 0x1000⟩ ∧
      low ≤ 0x80 + n / 0x40 % 0x40 ∧ 0x80 + n / 0x40 % 0x40 ≤ high := by
  have hbyte : (UInt8.ofNat (0xe0 + n / 0x1000)).toNat = 0xe0 + n / 0x1000 :=
    toNat_ofNat_of_lt (by omega)
  simp only [promise?, hbyte]
  rw [if_neg (by omega), if_neg (by omega)]
  by_cases hfirst : n / 0x1000 = 0
  · rw [if_pos (by omega), hfirst]
    exact ⟨0xa0, 0xbf, rfl, by omega, by omega⟩
  · rw [if_neg (by omega)]
    by_cases hsurrogates : n / 0x1000 = 0xd
    · rw [if_pos (by omega), hsurrogates]
      exact ⟨0x80, 0x9f, rfl, by omega, by omega⟩
    · rw [if_neg (by omega), if_pos (by omega), Nat.add_sub_cancel_left]
      exact ⟨0x80, 0xbf, rfl, by omega, by omega⟩

/-- The second byte of four is in its range, since the character needs four bytes and is no more than the
last one. -/
theorem promise?_four {n : Nat} (hlow : 0x10000 ≤ n) (hhigh : n < 0x110000) :
    ∃ low high, promise? (UInt8.ofNat (0xf0 + n / 0x40000)) = some ⟨3, low, high, n / 0x40000⟩ ∧
      low ≤ 0x80 + n / 0x1000 % 0x40 ∧ 0x80 + n / 0x1000 % 0x40 ≤ high := by
  have hbyte : (UInt8.ofNat (0xf0 + n / 0x40000)).toNat = 0xf0 + n / 0x40000 :=
    toNat_ofNat_of_lt (by omega)
  simp only [promise?, hbyte]
  rw [if_neg (by omega), if_neg (by omega), if_neg (by omega), if_neg (by omega), if_neg (by omega)]
  by_cases hfirst : n / 0x40000 = 0
  · rw [if_pos (by omega), hfirst]
    exact ⟨0x90, 0xbf, rfl, by omega, by omega⟩
  · rw [if_neg (by omega)]
    by_cases hlast : n / 0x40000 = 4
    · rw [if_neg (by omega), if_pos (by omega), hlast]
      exact ⟨0x80, 0x8f, rfl, by omega, by omega⟩
    · rw [if_pos (by omega), Nat.add_sub_cancel_left]
      exact ⟨0x80, 0xbf, rfl, by omega, by omega⟩

/-! ### Characters and texts -/

theorem toNat_lt (c : Char) : c.toNat < 0x110000 := by
  obtain hlow | ⟨-, hhigh⟩ : c.toNat < 0xd800 ∨ 0xdfff < c.toNat ∧ c.toNat < 0x110000 := c.valid <;> omega

theorem toNat_not_surrogate (c : Char) : c.toNat < 0xd800 ∨ 0xdfff < c.toNat :=
  (c.valid : c.toNat < 0xd800 ∨ 0xdfff < c.toNat ∧ c.toNat < 0x110000).imp_right And.left

theorem decodeFrom_encodeChar (c : Char) (position : Nat) (seen : Text) (bytes : Bytes) :
    ∃ behind, decodeFrom position seen none (encodeChar c ++ bytes) =
      decodeFrom behind (c :: seen) none bytes := by
  have hvalid := toNat_not_surrogate c
  have hlt := toNat_lt c
  dsimp only [encodeChar]
  -- The cases are those of the encoder: one byte to four, all but the first and the last in the middle.
  split
  · next h1 =>
    refine ⟨position + 1, ?_⟩
    rw [List.singleton_append, decodeFrom, toNat_ofNat_of_lt (by omega), if_pos h1, Char.ofNat_toNat]
  · split
    · next h1 h2 =>
      refine ⟨position + 1 + 1, ?_⟩
      have hbyte : (UInt8.ofNat (0xc0 + c.toNat / 0x40)).toNat = 0xc0 + c.toNat / 0x40 :=
        toNat_ofNat_of_lt (by omega)
      have hvalue : c.toNat / 0x40 * 0x40 + c.toNat % 0x40 = c.toNat := by omega
      rw [List.cons_append, decodeFrom_lead (by omega) (promise?_two (by omega) h2),
        List.singleton_append, decodeFrom_last (by simp) (by simp only; omega) rfl]
      simp only [hvalue, Char.ofNat_toNat]
    · split
      · next h1 h2 h3 =>
        refine ⟨position + 1 + 1 + 1, ?_⟩
        obtain ⟨low, high, hpromise, hl, hh⟩ := promise?_three (by omega) h3 hvalid
        have hbyte : (UInt8.ofNat (0xe0 + c.toNat / 0x1000)).toNat = 0xe0 + c.toNat / 0x1000 :=
          toNat_ofNat_of_lt (by omega)
        have hvalue :
            (c.toNat / 0x1000 * 0x40 + c.toNat / 0x40 % 0x40) * 0x40 + c.toNat % 0x40 = c.toNat := by
          omega
        rw [List.cons_append, decodeFrom_lead (by omega) hpromise, List.cons_append,
          decodeFrom_continuation hl hh (by simp only; omega), List.singleton_append,
          decodeFrom_last (by simp [Partial.next]) (by simp only [Partial.next]; omega) rfl]
        simp only [Partial.next, hvalue, Char.ofNat_toNat]
      · next h1 h2 h3 =>
        refine ⟨position + 1 + 1 + 1 + 1, ?_⟩
        obtain ⟨low, high, hpromise, hl, hh⟩ := promise?_four (by omega) hlt
        have hbyte : (UInt8.ofNat (0xf0 + c.toNat / 0x40000)).toNat = 0xf0 + c.toNat / 0x40000 :=
          toNat_ofNat_of_lt (by omega)
        have hvalue :
            ((c.toNat / 0x40000 * 0x40 + c.toNat / 0x1000 % 0x40) * 0x40 + c.toNat / 0x40 % 0x40) * 0x40 +
              c.toNat % 0x40 = c.toNat := by
          omega
        rw [List.cons_append, decodeFrom_lead (by omega) hpromise, List.cons_append,
          decodeFrom_continuation hl hh (by simp only; omega), List.cons_append,
          decodeFrom_continuation (by simp [Partial.next]) (by simp only [Partial.next]; omega)
            (by simp [Partial.next]),
          List.singleton_append,
          decodeFrom_last (by simp [Partial.next]) (by simp only [Partial.next]; omega) rfl]
        simp only [Partial.next, hvalue, Char.ofNat_toNat]

theorem decodeFrom_encode (text : Text) (position : Nat) (seen : Text) :
    decodeFrom position seen none (encode text) = .ok (seen.reverse ++ text) := by
  induction text generalizing position seen with
  | nil => simp [decodeFrom]
  | cons c text ih =>
    obtain ⟨behind, hstep⟩ := decodeFrom_encodeChar c position seen (encode text)
    rw [encode_cons, hstep, ih]
    simp

/-- Decoding undoes encoding. -/
theorem decode_encode (text : Text) : decode (encode text) = .ok text :=
  decodeFrom_encode text 0 []

/-! ### Nothing else is accepted -/

/-- The bytes that keep a promise, and the number that its bits and theirs come to. -/
inductive Keeps : Promise → Bytes → Nat → Prop
  | last {promise : Promise} {byte : UInt8} : promise.missing ≤ 1 → promise.low ≤ byte.toNat →
      byte.toNat ≤ promise.high → Keeps promise [byte] (promise.value * 0x40 + byte.toNat % 0x40)
  | more {promise : Promise} {byte : UInt8} {bytes : Bytes} {n : Nat} : 1 < promise.missing →
      promise.low ≤ byte.toNat → byte.toNat ≤ promise.high →
      Keeps ⟨promise.missing - 1, 0x80, 0xbf, promise.value * 0x40 + byte.toNat % 0x40⟩ bytes n →
      Keeps promise (byte :: bytes) n

theorem keeps_of_decodeFrom {begun : Partial} {text : Text}
    (h : decodeFrom position seen (some begun) bytes = .ok text) :
    ∃ kept rest n behind, bytes = kept ++ rest ∧ Keeps begun.promise kept n ∧
      decodeFrom behind (Char.ofNat n :: seen) none rest = .ok text := by
  induction bytes generalizing position begun with
  | nil => simp [decodeFrom] at h
  | cons byte bytes ih =>
    obtain ⟨start, lead, count, promise⟩ := begun
    rw [decodeFrom] at h
    by_cases hrange : promise.low ≤ byte.toNat ∧ byte.toNat ≤ promise.high
    · simp only [if_pos hrange] at h
      by_cases hmissing : promise.missing ≤ 1
      · rw [if_pos hmissing] at h
        exact ⟨[byte], bytes, _, _, rfl, .last hmissing hrange.1 hrange.2, h⟩
      · rw [if_neg hmissing] at h
        obtain ⟨kept, rest, n, behind, rfl, hkept, hrest⟩ := ih h
        exact ⟨byte :: kept, rest, n, behind, rfl, .more (Nat.lt_of_not_le hmissing) hrange.1 hrange.2 hkept, hrest⟩
    · simp [if_neg hrange] at h

theorem promise?_eq_some {lead : UInt8} {promise : Promise} (h : promise? lead = some promise) :
    (promise.missing = 1 ∧ promise.low = 0x80 ∧ promise.high = 0xbf ∧
      lead.toNat = 0xc0 + promise.value ∧ 2 ≤ promise.value ∧ promise.value < 0x20) ∨
    (promise.missing = 2 ∧ 0x80 ≤ promise.low ∧ promise.high ≤ 0xbf ∧
      lead.toNat = 0xe0 + promise.value ∧ promise.value < 0x10 ∧
      (promise.value = 0 → 0xa0 ≤ promise.low) ∧ (promise.value = 0xd → promise.high ≤ 0x9f)) ∨
    (promise.missing = 3 ∧ 0x80 ≤ promise.low ∧ promise.high ≤ 0xbf ∧
      lead.toNat = 0xf0 + promise.value ∧ promise.value ≤ 4 ∧
      (promise.value = 0 → 0x90 ≤ promise.low) ∧ (promise.value = 4 → promise.high ≤ 0x8f)) := by
  simp only [promise?] at h
  split_ifs at h <;> obtain rfl := Option.some.inj h <;> dsimp only <;> omega

theorem toNat_ofNat_of_valid {n : Nat} (h : n < 0xd800 ∨ 0xdfff < n ∧ n < 0x110000) :
    (Char.ofNat n).toNat = n := by
  have hvalid : n.isValidChar := h
  rw [Char.ofNat, dif_pos hvalid]
  rfl

section

variable {n : Nat} {lead second third fourth : UInt8}

theorem encodeChar_two (hlow : 0x80 ≤ n) (hhigh : n < 0x800) (hlead : lead.toNat = 0xc0 + n / 0x40)
    (hsecond : second.toNat = 0x80 + n % 0x40) : encodeChar (Char.ofNat n) = [lead, second] := by
  simp only [encodeChar, toNat_ofNat_of_valid (.inl (by omega : n < 0xd800)), continuation]
  rw [if_neg (by omega), if_pos hhigh, ← hlead, ← hsecond, UInt8.ofNat_toNat, UInt8.ofNat_toNat]

theorem encodeChar_three (hlow : 0x800 ≤ n) (hhigh : n < 0x10000) (hvalid : n < 0xd800 ∨ 0xdfff < n)
    (hlead : lead.toNat = 0xe0 + n / 0x1000) (hsecond : second.toNat = 0x80 + n / 0x40 % 0x40)
    (hthird : third.toNat = 0x80 + n % 0x40) : encodeChar (Char.ofNat n) = [lead, second, third] := by
  simp only [encodeChar, toNat_ofNat_of_valid (by omega : n < 0xd800 ∨ 0xdfff < n ∧ n < 0x110000),
    continuation]
  rw [if_neg (by omega), if_neg (by omega), if_pos hhigh, ← hlead, ← hsecond, ← hthird,
    UInt8.ofNat_toNat, UInt8.ofNat_toNat, UInt8.ofNat_toNat]

theorem encodeChar_four (hlow : 0x10000 ≤ n) (hhigh : n < 0x110000)
    (hlead : lead.toNat = 0xf0 + n / 0x40000) (hsecond : second.toNat = 0x80 + n / 0x1000 % 0x40)
    (hthird : third.toNat = 0x80 + n / 0x40 % 0x40) (hfourth : fourth.toNat = 0x80 + n % 0x40) :
    encodeChar (Char.ofNat n) = [lead, second, third, fourth] := by
  simp only [encodeChar, toNat_ofNat_of_valid (by omega : n < 0xd800 ∨ 0xdfff < n ∧ n < 0x110000),
    continuation]
  rw [if_neg (by omega), if_neg (by omega), if_neg (by omega), ← hlead, ← hsecond, ← hthird, ← hfourth,
    UInt8.ofNat_toNat, UInt8.ofNat_toNat, UInt8.ofNat_toNat, UInt8.ofNat_toNat]

theorem Keeps.encodeChar {promise : Promise} (hpromise : promise? lead = some promise) {kept : Bytes}
    (h : Keeps promise kept n) : Utf8.encodeChar (Char.ofNat n) = lead :: kept := by
  have hkinds := promise?_eq_some hpromise
  cases h with
  | last hmissing hlow hhigh => exact encodeChar_two (by omega) (by omega) (by omega) (by omega)
  | more hmissing hlow hhigh h =>
    cases h with
    | last hmissing' hlow' hhigh' =>
      dsimp only at hmissing' hlow' hhigh' ⊢
      exact encodeChar_three (by omega) (by omega) (by omega) (by omega) (by omega) (by omega)
    | more hmissing' hlow' hhigh' h =>
      dsimp only at hmissing' hlow' hhigh'
      cases h with
      | last hmissing'' hlow'' hhigh'' =>
        dsimp only at hlow'' hhigh'' ⊢
        exact encodeChar_four (by omega) (by omega) (by omega) (by omega) (by omega) (by omega)
      | more hmissing'' _ _ _ =>
        dsimp only at hmissing''
        omega

end

theorem encode_of_decodeFrom {text : Text} (h : decodeFrom position seen none bytes = .ok text) :
    ∃ rest, text = seen.reverse ++ rest ∧ encode rest = bytes := by
  -- The decoder is between two characters at the start of each round, and a round is one character.
  induction bytes using WellFounded.induction (measure List.length).wf generalizing position seen with
  | _ bytes ih =>
    cases bytes with
    | nil => exact ⟨[], by simpa [decodeFrom] using h.symm, rfl⟩
    | cons lead bytes =>
      rw [decodeFrom] at h
      split at h
      · next hsmall =>
        have hshorter : bytes.length < (lead :: bytes).length := Nat.lt_succ_self _
        obtain ⟨rest, rfl, hrest⟩ := ih bytes hshorter h
        have hlead : encodeChar (Char.ofNat lead.toNat) = [lead] := by
          simp [encodeChar, toNat_ofNat_of_valid (.inl (by omega : lead.toNat < 0xd800)), hsmall]
        exact ⟨Char.ofNat lead.toNat :: rest, by simp, by rw [encode_cons, hlead, hrest]; rfl⟩
      · split at h
        · simp at h
        · next promise hpromise =>
          obtain ⟨kept, behind, n, next, rfl, hkept, hbehind⟩ := keeps_of_decodeFrom h
          have hshorter : behind.length < (lead :: (kept ++ behind)).length := by
            rw [List.length_cons, List.length_append]
            omega
          obtain ⟨rest, rfl, hrest⟩ := ih behind hshorter hbehind
          exact ⟨Char.ofNat n :: rest, by simp, by
            rw [encode_cons, hkept.encodeChar hpromise, hrest, List.cons_append]⟩

/-- What is decoded to a text is its encoding, and nothing else is. -/
theorem decode_eq_ok_iff {text : Text} : decode bytes = .ok text ↔ bytes = encode text := by
  constructor
  · intro h
    obtain ⟨rest, rfl, hrest⟩ := encode_of_decodeFrom h
    exact hrest.symm
  · rintro rfl
    exact decode_encode text

end Stencil.Utf8
