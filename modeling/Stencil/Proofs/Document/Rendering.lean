import Stencil.Document
import Stencil.Proofs.Text.Utf8

/-!
How a mapping may be written as a JSON object. This is the standard's side of the matter, and nothing here is
taken from the reader: a character within quotes stands for itself or is escaped, in one of up to three ways,
and an object is a row of tokens with gaps of any width before, between and behind them.

A text loses its carriage returns when it is read from a file. They can only stand in gaps, since a string has
no bare one, so what is left is a rendering of the same members (`Renders.unified`).
-/

namespace Stencil

/-! ### Line ends -/

namespace Text

/-- Line ends on both sides of a place are found independently, unless a pair of them is split there. -/
theorem unifiedOnto_append_right {rest : Text} (h : rest.head? ≠ some '\n') (seen text : Text) :
    unifiedOnto seen (text ++ rest) = unifiedOnto seen text ++ unified rest := by
  fun_induction unifiedOnto seen text with
  | case1 seen => exact unifiedOnto_eq seen rest
  | case2 seen text ih =>
    rw [← ih]
    rfl
  | case3 seen text hfeed ih =>
    have hfeed' : ∀ more, text ++ rest = '\n' :: more → False := by
      intro more hmore
      cases text with
      | nil => simp_all
      | cons c text => exact hfeed _ (by rw [(List.cons.inj hmore).1])
    rw [← ih, List.cons_append, unifiedOnto.eq_3 _ _ hfeed']
  | case4 seen c text _ hreturn ih =>
    rw [← ih, List.cons_append, unifiedOnto.eq_4]
    · exact fun _ hc _ => hreturn hc
    · exact hreturn

theorem unified_append {text rest : Text} (h : rest.head? ≠ some '\n') :
    unified (text ++ rest) = unified text ++ unified rest :=
  unifiedOnto_append_right h [] text

theorem unifiedOnto_append_of_notMem {text : Text} (h : '\r' ∉ text) (seen rest : Text) :
    unifiedOnto seen (text ++ rest) = seen.reverse ++ text ++ unified rest := by
  induction text generalizing seen with
  | nil => simp [unifiedOnto_eq]
  | cons c text ih =>
    have hc : c ≠ '\r' := fun hc => h (by simp [hc])
    rw [List.cons_append, unifiedOnto.eq_4 _ _ _ (fun _ hreturn _ => hc hreturn) hc,
      ih (fun hmem => h (List.mem_cons_of_mem _ hmem))]
    simp

theorem unified_append_of_notMem {text : Text} (h : '\r' ∉ text) (rest : Text) :
    unified (text ++ rest) = text ++ unified rest :=
  unifiedOnto_append_of_notMem h [] rest

theorem mem_of_mem_unifiedOnto {c : Char} {seen text : Text} (h : c ∈ unifiedOnto seen text) :
    c = '\n' ∨ c ∈ seen ∨ c ∈ text := by
  fun_induction unifiedOnto seen text with
  | case1 seen => exact .inr (.inl (List.mem_reverse.1 h))
  | case2 seen text ih => have := ih h; simp at this ⊢; tauto
  | case3 seen text _ ih => have := ih h; simp at this ⊢; tauto
  | case4 seen d text _ _ ih => have := ih h; simp at this ⊢; tauto

theorem mem_of_mem_unified {c : Char} {text : Text} (h : c ∈ unified text) : c = '\n' ∨ c ∈ text := by
  simpa using mem_of_mem_unifiedOnto h

end Text

namespace Document

/-! ### Strings -/

def shortEscapes : List (Char × Char) :=
  [('"', '"'), ('\\', '\\'), ('/', '/'), ('b', '\x08'), ('f', '\x0c'), ('n', '\n'), ('r', '\r'), ('t', '\t')]

def IsHexDigit (n : Nat) (digit : Char) : Prop :=
  digit = Nat.digitChar n ∨ digit = (Nat.digitChar n).toUpper

instance (n : Nat) (digit : Char) : Decidable (IsHexDigit n digit) :=
  inferInstanceAs (Decidable (_ ∨ _))

/-- The escape of a number below `0x10000`: a backslash, a `u` and four hexadecimal digits. -/
inductive Escapes (n : Nat) : Text → Prop
  | digits {a b c d : Char} : IsHexDigit (n / 0x1000) a → IsHexDigit (n / 0x100 % 0x10) b →
      IsHexDigit (n / 0x10 % 0x10) c → IsHexDigit (n % 0x10) d → Escapes n ['\\', 'u', a, b, c, d]

/-- How a character may be written within quotes. One that is too large for an escape of its own is split
into two halves. -/
inductive WritesChar (c : Char) : Text → Prop
  | bare : 0x20 ≤ c.toNat → c ≠ '"' → c ≠ '\\' → WritesChar c [c]
  | short {letter : Char} : (letter, c) ∈ shortEscapes → WritesChar c ['\\', letter]
  | single {escape : Text} : c.toNat < 0x10000 → Escapes c.toNat escape → WritesChar c escape
  | pair {high low : Text} : 0x10000 ≤ c.toNat →
      Escapes (0xd800 + (c.toNat - 0x10000) / 0x400) high →
      Escapes (0xdc00 + (c.toNat - 0x10000) % 0x400) low → WritesChar c (high ++ low)

inductive WritesText : Text → Text → Prop
  | nil : WritesText [] []
  | cons {c : Char} {text written rest : Text} : WritesChar c written → WritesText text rest →
      WritesText (c :: text) (written ++ rest)

inductive Quotes (text : Text) : Text → Prop
  | quoted {written : Text} : WritesText text written → Quotes text ('"' :: (written ++ ['"']))

/-! ### Objects -/

/-- Any number of spaces, tabs, line feeds and carriage returns. -/
def IsWidth (gap : Text) : Prop :=
  ∀ c ∈ gap, c ∈ [' ', '\t', '\n', '\r']

instance (gap : Text) : Decidable (IsWidth gap) :=
  List.decidableBAll _ gap

/-- Tokens in a row, with gaps before, between and behind them. -/
inductive Spaced : List Text → Text → Prop
  | nil {gap : Text} : IsWidth gap → Spaced [] gap
  | cons {gap token text : Text} {tokens : List Text} : IsWidth gap → Spaced tokens text →
      Spaced (token :: tokens) (gap ++ (token ++ text))

variable {writes : Value → Text → Prop}

/-- The tokens of the members of an object, and of the brace behind them. How values are written is left
open. -/
inductive WritesMembers (writes : Value → Text → Prop) : List (Text × Value) → List Text → Prop
  | last {name quoted written : Text} {value : Value} : Quotes name quoted → writes value written →
      WritesMembers writes [(name, value)] [quoted, [':'], written, ['}']]
  | cons {name quoted written : Text} {value : Value} {members : List (Text × Value)}
      {tokens : List Text} : Quotes name quoted → writes value written →
      WritesMembers writes members tokens →
      WritesMembers writes ((name, value) :: members) (quoted :: [':'] :: written :: [','] :: tokens)

inductive WritesObject (writes : Value → Text → Prop) : List (Text × Value) → List Text → Prop
  | empty : WritesObject writes [] [['{'], ['}']]
  | full {members : List (Text × Value)} {tokens : List Text} : WritesMembers writes members tokens →
      WritesObject writes members (['{'] :: tokens)

/-- A text is an object with these members, in this order. -/
def Renders (writes : Value → Text → Prop) (members : List (Text × Value)) (text : Text) : Prop :=
  ∃ tokens, WritesObject writes members tokens ∧ Spaced tokens text

inductive WritesString : Value → Text → Prop
  | string {text quoted : Text} : Quotes text quoted → WritesString (.text text) quoted

/-! ### What a token looks like -/

/-- A token does not begin with a gap, and no carriage return is in it. -/
structure Firm (token : Text) : Prop where
  begins : ∃ c rest, token = c :: rest ∧ c ∉ [' ', '\t', '\n', '\r']
  whole : '\r' ∉ token

theorem Firm.ne_nil {token : Text} (h : Firm token) : token ≠ [] := by
  obtain ⟨c, rest, rfl, -⟩ := h.begins
  simp

theorem firm_singleton {c : Char} (h : c ∉ [' ', '\t', '\n', '\r']) : Firm [c] where
  begins := ⟨c, [], rfl, h⟩
  whole := by
    simp only [List.mem_cons, not_or] at h
    simpa [eq_comm] using h.2.2.2.1

theorem IsHexDigit.ne_return {n : Nat} {digit : Char} (hn : n < 0x10) (h : IsHexDigit n digit) :
    '\r' ≠ digit := by
  have hall : ∀ n < 0x10, '\r' ≠ Nat.digitChar n ∧ '\r' ≠ (Nat.digitChar n).toUpper := by decide
  rcases h with rfl | rfl
  · exact (hall n hn).1
  · exact (hall n hn).2

theorem Escapes.return_notMem {n : Nat} {escape : Text} (hn : n < 0x10000) (h : Escapes n escape) :
    '\r' ∉ escape := by
  obtain ⟨ha, hb, hc, hd⟩ := h
  simp [ha.ne_return (by omega), hb.ne_return (by omega), hc.ne_return (by omega),
    hd.ne_return (by omega)]

theorem WritesChar.return_notMem {c : Char} {written : Text} (h : WritesChar c written) :
    '\r' ∉ written := by
  cases h with
  | bare hprintable _ _ =>
    have hc : '\r' ≠ c := by
      rintro rfl
      exact absurd hprintable (by decide)
    simpa using hc
  | short hletter =>
    have hall : ∀ entry ∈ shortEscapes, '\r' ∉ ['\\', entry.1] := by decide
    exact hall _ hletter
  | single hsmall hescape => exact hescape.return_notMem hsmall
  | pair _ hhigh hlow =>
    have hlast := Utf8.toNat_lt c
    simp [hhigh.return_notMem (by omega), hlow.return_notMem (by omega)]

theorem WritesText.return_notMem {text written : Text} (h : WritesText text written) :
    '\r' ∉ written := by
  induction h with
  | nil => simp
  | cons hc _ ih => simp [hc.return_notMem, ih]

theorem Quotes.firm {text quoted : Text} (h : Quotes text quoted) : Firm quoted := by
  obtain ⟨hwritten⟩ := h
  exact ⟨⟨_, _, rfl, by decide⟩, by simp [hwritten.return_notMem]⟩

theorem WritesMembers.firm (hwrites : ∀ {value written}, writes value written → Firm written)
    {members : List (Text × Value)} {tokens : List Text} (h : WritesMembers writes members tokens) :
    ∀ token ∈ tokens, Firm token := by
  have hcolon : Firm [':'] := firm_singleton (by decide)
  induction h with
  | last hname hvalue =>
    simpa using ⟨hname.firm, hcolon, hwrites hvalue, firm_singleton (by decide)⟩
  | cons hname hvalue _ ih =>
    simpa using ⟨hname.firm, hcolon, hwrites hvalue, firm_singleton (by decide), ih⟩

theorem WritesObject.firm (hwrites : ∀ {value written}, writes value written → Firm written)
    {members : List (Text × Value)} {tokens : List Text} (h : WritesObject writes members tokens) :
    ∀ token ∈ tokens, Firm token := by
  have hbrace : Firm ['{'] := firm_singleton (by decide)
  cases h with
  | empty => simpa using ⟨hbrace, firm_singleton (by decide)⟩
  | full hmembers => simpa using ⟨hbrace, hmembers.firm hwrites⟩

/-! ### Renderings in files -/

theorem IsWidth.unified {gap : Text} (h : IsWidth gap) : IsWidth gap.unified := by
  intro c hc
  rcases Text.mem_of_mem_unified hc with rfl | hmem
  · decide
  · exact h c hmem

theorem Spaced.unified {tokens : List Text} {text : Text} (h : Spaced tokens text)
    (hfirm : ∀ token ∈ tokens, Firm token) : Spaced tokens text.unified := by
  induction h with
  | nil hgap => exact .nil hgap.unified
  | @cons gap token text tokens hgap _ ih =>
    obtain ⟨c, rest, htoken, hc⟩ := (hfirm token List.mem_cons_self).begins
    -- A carriage return at the end of the gap is not followed by a line feed, which would be a gap too.
    have hhead : (token ++ text).head? ≠ some '\n' := by
      rw [htoken]
      rintro hfeed
      exact hc (by simp [Option.some.inj hfeed])
    rw [Text.unified_append hhead,
      Text.unified_append_of_notMem (hfirm token List.mem_cons_self).whole]
    exact .cons hgap.unified (ih fun other hother => hfirm other (List.mem_cons_of_mem _ hother))

/-- What is left of a rendering when its carriage returns are gone is a rendering of the same members. -/
theorem Renders.unified (hwrites : ∀ {value written}, writes value written → Firm written)
    {members : List (Text × Value)} {text : Text} (h : Renders writes members text) :
    Renders writes members text.unified := by
  obtain ⟨tokens, hobject, hspaced⟩ := h
  exact ⟨tokens, hobject, hspaced.unified (hobject.firm hwrites)⟩

end Document

end Stencil
