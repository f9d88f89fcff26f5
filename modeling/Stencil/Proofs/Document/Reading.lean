import Stencil.Proofs.Document.Rendering
import Stencil.Proofs.Mapping.Entries
import Stencil.VariableFile
import Mathlib.Data.List.TakeWhile

/-!
The reader reads every rendering of an object as that object. Each part of the reader is followed with an
arbitrary rest of the text behind what it takes, so that the parts can be put one behind the other: first the
characters of a string, then the strings, then the members.

Numbers of characters are collected before they are joined to characters, since an escape may be half of one.
`units` are the numbers that one written character leaves.
-/

namespace Stencil

namespace Document

variable {left : Nat} {seen : List Nat} {rest : Text}

/-! ### One character -/

theorem hexValue?_of_isHexDigit {n : Nat} {digit : Char} (hn : n < 0x10) (h : IsHexDigit n digit) :
    hexValue? digit = some n := by
  have hall : ∀ n < 0x10, hexValue? (Nat.digitChar n) = some n ∧
      hexValue? (Nat.digitChar n).toUpper = some n := by decide
  rcases h with rfl | rfl
  · exact (hall n hn).1
  · exact (hall n hn).2

theorem stringFrom_bare {c : Char} (hprintable : 0x20 ≤ c.toNat) (hquote : c ≠ '"')
    (hescape : c ≠ '\\') :
    stringFrom left seen (c :: rest) = stringFrom left (c.toNat :: seen) rest := by
  rw [stringFrom]
  · rw [if_neg (by omega)]
  all_goals simp_all

theorem stringFrom_short {letter c : Char} (hletter : letter ≠ 'u') (h : escaped? letter = some c) :
    stringFrom left seen ('\\' :: letter :: rest) = stringFrom left (c.toNat :: seen) rest := by
  rw [stringFrom]
  · rw [h]
  all_goals simp_all

/-- The reader looks at the character behind an escape too, which is there because a quote has to come. -/
theorem stringFrom_escape {n : Nat} {escape : Text} (hn : n < 0x10000) (h : Escapes n escape)
    (next : Char) :
    stringFrom left seen (escape ++ next :: rest) = stringFrom left (n :: seen) (next :: rest) := by
  obtain ⟨ha, hb, hc, hd⟩ := h
  have hvalue : ((n / 0x1000 * 16 + n / 0x100 % 0x10) * 16 + n / 0x10 % 0x10) * 16 + n % 0x10 = n := by
    omega
  simp only [List.cons_append, List.nil_append]
  rw [stringFrom, hexValue4?, hexValue?_of_isHexDigit (by omega) ha,
    hexValue?_of_isHexDigit (by omega) hb, hexValue?_of_isHexDigit (by omega) hc,
    hexValue?_of_isHexDigit (by omega) hd]
  simp only [Option.pure_def, Option.bind_eq_bind, Option.bind_some, hvalue]

theorem not_half_toNat (c : Char) : isHighHalf c.toNat = false ∧ isLowHalf c.toNat = false := by
  have hvalid := Utf8.toNat_not_surrogate c
  simp only [isHighHalf, isLowHalf, Bool.and_eq_false_iff, decide_eq_false_iff_not]
  omega

theorem joinHalves_toNat (c : Char) (units : List Nat) :
    Str.joinHalves (c.toNat :: units) = c.toNat :: Str.joinHalves units := by
  cases units with
  | nil => rfl
  | cons low units => rw [Str.joinHalves, (not_half_toNat c).1, Bool.false_and, if_neg Bool.false_ne_true]

theorem joinHalves_pair {c : Char} (h : 0x10000 ≤ c.toNat) (units : List Nat) :
    Str.joinHalves
        ([0xd800 + (c.toNat - 0x10000) / 0x400, 0xdc00 + (c.toNat - 0x10000) % 0x400] ++ units) =
      c.toNat :: Str.joinHalves units := by
  have hlast := Utf8.toNat_lt c
  have hhigh : isHighHalf (0xd800 + (c.toNat - 0x10000) / 0x400) = true := by
    simp [isHighHalf]; omega
  have hlow : isLowHalf (0xdc00 + (c.toNat - 0x10000) % 0x400) = true := by
    simp [isLowHalf]; omega
  have hvalue : 0x10000 + (0xd800 + (c.toNat - 0x10000) / 0x400 - 0xd800) * 0x400 +
      (0xdc00 + (c.toNat - 0x10000) % 0x400 - 0xdc00) = c.toNat := by omega
  simp only [List.cons_append, List.nil_append, Str.joinHalves, hhigh, hlow, hvalue, Bool.and_self, if_true]

theorem ofPoints_toNat (text : Text) : Str.ofPoints (text.map Char.toNat) = .text text := by
  have hwhole : (text.map Char.toNat).any isHalf = false := by
    simp [isHalf, not_half_toNat]
  have hchars : (text.map Char.toNat).map Char.ofNat = text := by
    simp [Function.comp_def, Char.ofNat_toNat]
  rw [Str.ofPoints, hwhole, hchars]
  rfl

/-- A written character is read as the numbers of one character, which are joined to that character. -/
theorem WritesChar.read {c : Char} {written : Text} (h : WritesChar c written) :
    ∃ units, (∀ more, Str.joinHalves (units ++ more) = c.toNat :: Str.joinHalves more) ∧
      ∀ left seen next rest, stringFrom left seen (written ++ next :: rest) =
        stringFrom left (units.reverse ++ seen) (next :: rest) := by
  cases h with
  | bare hprintable hquote hescape =>
    exact ⟨[c.toNat], joinHalves_toNat c, fun _ _ _ _ => stringFrom_bare hprintable hquote hescape⟩
  | @short letter hletter =>
    have hall : ∀ entry ∈ shortEscapes, entry.1 ≠ 'u' ∧ escaped? entry.1 = some entry.2 := by decide
    obtain ⟨hu, hescaped⟩ := hall _ hletter
    exact ⟨[c.toNat], joinHalves_toNat c, fun _ _ _ _ => stringFrom_short hu hescaped⟩
  | single hsmall hescape =>
    exact ⟨[c.toNat], joinHalves_toNat c, fun _ _ next _ => stringFrom_escape hsmall hescape next⟩
  | @pair high low hlarge hhigh hlow =>
    have hlast := Utf8.toNat_lt c
    refine ⟨[_, _], joinHalves_pair hlarge, fun left seen next rest => ?_⟩
    -- The first half is followed by the backslash of the second.
    obtain ⟨more, rfl⟩ : ∃ more, low = '\\' :: more := by
      cases hlow
      exact ⟨_, rfl⟩
    rw [List.append_assoc, List.cons_append, stringFrom_escape (by omega) hhigh, ← List.cons_append,
      stringFrom_escape (by omega) hlow]
    rfl

/-! ### Strings -/

theorem WritesText.read {text written : Text} (h : WritesText text written) :
    ∃ units, (∀ more, Str.joinHalves (units ++ more) = text.map Char.toNat ++ Str.joinHalves more) ∧
      ∀ left seen rest, stringFrom left seen (written ++ '"' :: rest) =
        stringFrom left (units.reverse ++ seen) ('"' :: rest) := by
  induction h with
  | nil => exact ⟨[], fun _ => rfl, fun _ _ _ => rfl⟩
  | @cons c text written behind hc _ ih =>
    obtain ⟨first, hfirst, hread⟩ := hc.read
    obtain ⟨others, hothers, hreadOthers⟩ := ih
    refine ⟨first ++ others, fun more => ?_, fun left seen rest => ?_⟩
    · rw [List.append_assoc, hfirst, hothers]
      rfl
    · obtain ⟨next, more, hnext⟩ : ∃ next more, behind ++ '"' :: rest = next :: more :=
        List.exists_cons_of_ne_nil (by simp)
      rw [List.append_assoc, hnext, hread, ← hnext, hreadOthers, List.reverse_append, List.append_assoc]

theorem Quotes.read {text quoted : Text} (h : Quotes text quoted) (rest : Text) :
    ∃ behind, quoted ++ rest = '"' :: behind ∧ string behind = .ok (.text text, rest) := by
  obtain ⟨hwritten⟩ := h
  obtain ⟨units, htext, hread⟩ := hwritten.read
  refine ⟨_, by rw [List.cons_append, List.append_assoc], ?_⟩
  have hunits : Str.joinHalves units = text.map Char.toNat := by simpa [Str.joinHalves] using htext []
  rw [string, List.singleton_append, hread, stringFrom, List.append_nil, List.reverse_reverse, Str.ofUnits,
    hunits, ofPoints_toNat]

/-! ### Gaps -/

theorem isGap_iff {c : Char} : isGap c = true ↔ c ∈ [' ', '\t', '\n', '\r'] := by
  simp [isGap, or_assoc]

theorem IsWidth.skipGap_append {gap : Text} (h : IsWidth gap) (text : Text) :
    skipGap (gap ++ text) = skipGap text :=
  List.dropWhile_append_of_pos fun c hc => isGap_iff.2 (h c hc)

theorem Firm.skipGap_append {token : Text} (h : Firm token) (text : Text) :
    skipGap (token ++ text) = token ++ text := by
  obtain ⟨c, more, rfl, hc⟩ := h.begins
  rw [List.cons_append, skipGap, List.dropWhile_cons_of_neg (mt isGap_iff.1 hc)]

theorem Spaced.next {token text : Text} {tokens : List Text} (h : Spaced (token :: tokens) text)
    (hfirm : Firm token) : ∃ rest, skipGap text = token ++ rest ∧ Spaced tokens rest := by
  cases h with
  | cons hgap hrest => exact ⟨_, by rw [hgap.skipGap_append, hfirm.skipGap_append], hrest⟩

theorem Spaced.ends {text : Text} (h : Spaced [] text) : skipGap text = [] := by
  cases h with
  | nil hgap => exact List.dropWhile_eq_nil_iff.2 fun c hc => isGap_iff.2 (hgap c hc)

theorem Spaced.length_le {tokens : List Text} {text : Text} (h : Spaced tokens text)
    (hfirm : ∀ token ∈ tokens, Firm token) : tokens.length ≤ text.length := by
  induction h with
  | nil => simp
  | @cons gap token text tokens _ _ ih =>
    have hrest := ih fun other hother => hfirm other (List.mem_cons_of_mem _ hother)
    have htoken := List.length_pos_iff.2 (hfirm token List.mem_cons_self).ne_nil
    simp only [List.length_cons, List.length_append]
    omega

/-! ### Objects -/

/-- A way of writing values that the reader can follow, if a gap, a comma or a brace comes behind them. -/
structure Legible (writes : Value → Text → Prop) : Prop where
  firm : ∀ {value : Value} {written : Text}, writes value written → Firm written
  whole : ∀ {value : Value} {written : Text}, writes value written → value.asString = .text value.display
  reads : ∀ {value : Value} {written : Text}, writes value written → ∀ (fuel : Nat) (rest : Text),
    rest.head? ∈ [' ', '\t', '\n', '\r', ',', '}'].map some →
    valueFrom (fuel + 1) (written ++ rest) = .ok (value, rest)

theorem legible_writesString : Legible WritesString where
  firm h := by
    obtain ⟨hquoted⟩ := h
    exact hquoted.firm
  whole h := by
    obtain ⟨-⟩ := h
    rfl
  reads h fuel rest _ := by
    obtain ⟨hquoted⟩ := h
    obtain ⟨behind, hsplit, hread⟩ := hquoted.read rest
    rw [hsplit, valueFrom, hread]
    rfl

theorem Spaced.head?_mem {c : Char} {tokens : List Text} {text : Text} (h : Spaced ([c] :: tokens) text)
    (hc : c = ',' ∨ c = '}') : text.head? ∈ [' ', '\t', '\n', '\r', ',', '}'].map some := by
  cases h with
  | @cons gap _ text _ hgap _ =>
    cases gap with
    | nil => rcases hc with rfl | rfl <;> simp
    | cons first gap =>
      have hfirst := hgap first List.mem_cons_self
      simp only [List.mem_cons, List.not_mem_nil, or_false] at hfirst
      rcases hfirst with rfl | rfl | rfl | rfl <;> simp

variable {writes : Value → Text → Prop}

def underText : Text × Value → Str × Value := fun (name, value) => (.text name, value)

theorem membersFrom_member (hwrites : Legible writes) {name quoted written text : Text} {value : Value}
    {c : Char} {tokens : List Text} (hname : Quotes name quoted) (hvalue : writes value written)
    (hc : c = ',' ∨ c = '}') (h : Spaced (quoted :: [':'] :: written :: [c] :: tokens) text)
    (fuel : Nat) :
    ∃ rest, Spaced tokens rest ∧ membersFrom (fuel + 2) (skipGap text) =
      if c = '}' then .ok ([(.text name, value)], rest)
      else (membersFrom (fuel + 1) (skipGap rest)).map fun (members, rest) =>
        ((.text name, value) :: members, rest) := by
  have hcolon : Firm [':'] := firm_singleton (by decide)
  have hbehind : Firm [c] := by rcases hc with rfl | rfl <;> exact firm_singleton (by decide)
  obtain ⟨afterName, hquoted, h⟩ := h.next hname.firm
  obtain ⟨start, hstart, hread⟩ := hname.read afterName
  obtain ⟨afterColon, hskipName, h⟩ := h.next hcolon
  obtain ⟨afterValue, hskipColon, h⟩ := h.next (hwrites.firm hvalue)
  have hvalueRead := hwrites.reads hvalue fuel afterValue (h.head?_mem hc)
  obtain ⟨rest, hskipValue, h⟩ := h.next hbehind
  refine ⟨rest, h, ?_⟩
  rw [hquoted, hstart, membersFrom, hread]
  rcases hc with rfl | rfl
  · simp only [bind, Except.bind, hskipName, List.singleton_append, hskipColon, hvalueRead, hskipValue]
    cases membersFrom (fuel + 1) (skipGap rest) <;> rfl
  · simp only [bind, Except.bind, hskipName, List.singleton_append, hskipColon, hvalueRead, hskipValue]
    rfl

theorem WritesMembers.read (hwrites : Legible writes) {members : List (Text × Value)}
    {tokens : List Text} (h : WritesMembers writes members tokens) {fuel : Nat} {text : Text}
    (hfuel : members.length < fuel) (hspaced : Spaced tokens text) :
    ∃ rest, membersFrom fuel (skipGap text) = .ok (members.map underText, rest) ∧ Spaced [] rest := by
  induction h generalizing fuel text with
  | last hname hvalue =>
    obtain ⟨fuel, rfl⟩ := Nat.exists_eq_add_of_le' hfuel
    obtain ⟨rest, hrest, hread⟩ := membersFrom_member hwrites hname hvalue (.inr rfl) hspaced fuel
    exact ⟨rest, hread, hrest⟩
  | @cons _ _ _ _ members _ hname hvalue _ ih =>
    rw [List.length_cons] at hfuel
    obtain ⟨fuel, rfl⟩ := Nat.exists_eq_add_of_le' (show 2 ≤ fuel by omega)
    obtain ⟨behind, hbehind, hread⟩ := membersFrom_member hwrites hname hvalue (.inl rfl) hspaced fuel
    have hless : members.length < fuel + 1 := by omega
    obtain ⟨rest, hmore, hrest⟩ := ih hless hbehind
    refine ⟨rest, ?_, hrest⟩
    rw [hread, hmore]
    rfl

theorem WritesMembers.length_lt {members : List (Text × Value)} {tokens : List Text}
    (h : WritesMembers writes members tokens) : members.length < tokens.length := by
  induction h with
  | last => simp
  | cons _ _ _ ih =>
    simp only [List.length_cons]
    omega

theorem WritesMembers.begins {members : List (Text × Value)}
    {tokens : List Text} {text : Text} (h : WritesMembers writes members tokens)
    (hspaced : Spaced tokens text) : ∃ rest, skipGap text = '"' :: rest := by
  cases h with
  | last hname _ | cons hname _ _ =>
    obtain ⟨rest, hskip, -⟩ := hspaced.next hname.firm
    obtain ⟨behind, hstart, -⟩ := hname.read rest
    exact ⟨behind, hskip.trans hstart⟩

theorem WritesObject.begins {members : List (Text × Value)} {tokens : List Text} {text : Text}
    (h : WritesObject writes members tokens) (hspaced : Spaced tokens text) :
    ∃ rest, skipGap text = '{' :: rest := by
  cases h with
  | empty | full _ =>
    obtain ⟨rest, hskip, -⟩ := hspaced.next (firm_singleton (by decide))
    exact ⟨rest, hskip⟩

theorem WritesObject.read (hwrites : Legible writes) {members : List (Text × Value)}
    {tokens : List Text} (h : WritesObject writes members tokens) {fuel : Nat} {text : Text}
    (hfuel : members.length < fuel) (hspaced : Spaced tokens text) :
    ∃ rest, valueFrom (fuel + 1) (skipGap text) =
        .ok (.object (Mapping.ofPairs (members.map underText)), rest) ∧ Spaced [] rest := by
  have hbrace : Firm ['{'] := firm_singleton (by decide)
  cases h with
  | empty =>
    obtain ⟨inside, hopen, hspaced⟩ := hspaced.next hbrace
    obtain ⟨rest, hclose, hspaced⟩ := hspaced.next (firm_singleton (by decide))
    refine ⟨rest, ?_, hspaced⟩
    rw [hopen, List.singleton_append, valueFrom, hclose]
    rfl
  | full hmembers =>
    obtain ⟨inside, hopen, hspaced⟩ := hspaced.next hbrace
    obtain ⟨start, hstart⟩ := hmembers.begins hspaced
    obtain ⟨rest, hread, hrest⟩ := hmembers.read hwrites hfuel hspaced
    refine ⟨rest, ?_, hrest⟩
    rw [hopen, List.singleton_append, valueFrom, hstart]
    rw [hstart] at hread
    simp [hread, Except.map]

/-- A rendering of an object is read as the object with its members; of members with the same name the last
one stays. -/
theorem Renders.read (hwrites : Legible writes) {members : List (Text × Value)} {text : Text}
    (h : Renders writes members text) :
    read text = .ok (.object (Mapping.ofPairs (members.map underText))) := by
  obtain ⟨tokens, hobject, hspaced⟩ := h
  have hlength := hspaced.length_le (hobject.firm hwrites.firm)
  have hfuel : members.length < 2 * text.length + 1 := by
    cases hobject with
    | empty => simp
    | full hmembers =>
      have := hmembers.length_lt
      simp only [List.length_cons] at hlength
      omega
  obtain ⟨rest, hread, hrest⟩ := hobject.read hwrites hfuel hspaced
  -- A byte order mark is no gap, so the text cannot begin with one and go on with a brace.
  have hmark : text.head? ≠ some '\ufeff' := by
    rintro hhead
    obtain ⟨c, behind, rfl⟩ : ∃ c behind, text = c :: behind := by
      cases text <;> simp_all
    obtain rfl := Option.some.inj hhead
    have hskip : skipGap ('\ufeff' :: behind) = '\ufeff' :: behind := by
      rw [skipGap, List.dropWhile_cons_of_neg (by decide)]
    obtain ⟨inside, hopen⟩ := hobject.begins hspaced
    rw [hskip] at hopen
    exact absurd (List.cons.inj hopen).1 (by decide)
  simp only [Document.read, if_neg hmark, fuelFor, hread, hrest.ends, bind, Except.bind]
  rfl

theorem named_ofPairs (members : List (Text × Value)) :
    Value.named (Mapping.ofPairs (members.map underText)) = Mapping.ofPairs members := by
  have hkeys : Mapping.ofPairs (members.map underText) = (Mapping.ofPairs members).map underText :=
    Mapping.ofPairs_map_keys (fun _ _ => Str.text.inj) members
  rw [hkeys, Value.named, List.filterMap_map]
  exact List.filterMap_some

theorem WritesMembers.exists_written {members : List (Text × Value)} {tokens : List Text}
    (h : WritesMembers writes members tokens) : ∀ member ∈ members, ∃ written, writes member.2 written := by
  induction h with
  | last _ hvalue => simpa using ⟨_, hvalue⟩
  | cons _ hvalue _ ih => exact List.forall_mem_cons.2 ⟨⟨_, hvalue⟩, ih⟩

theorem Renders.exists_written {members : List (Text × Value)} {text : Text}
    (h : Renders writes members text) : ∀ member ∈ members, ∃ written, writes member.2 written := by
  obtain ⟨_, hobject, -⟩ := h
  cases hobject with
  | empty => simp
  | full hmembers => exact hmembers.exists_written

end Document

/-- A file that holds a rendering of an object, in UTF-8 and with line ends of any kind, holds its members as
variables, each with the text of its value. -/
theorem VariableFile.ofBytes_encode {writes : Value → Text → Prop} (hwrites : Document.Legible writes)
    {members : List (Text × Value)} {text : Text} (h : Document.Renders writes members text)
    (path : Path) :
    ofBytes path (Utf8.encode text) =
      .ok ((Mapping.ofPairs members).map fun (name, value) => (name, .text value.display)) := by
  have hread := (h.unified hwrites.firm).read hwrites
  have hwhole : ∀ member ∈ Mapping.ofPairs members, member.2.asString = .text member.2.display := by
    intro member hmember
    obtain ⟨written, hwritten⟩ := h.exists_written member (Mapping.mem_of_mem_ofPairs hmember)
    exact hwrites.whole hwritten
  simp only [ofBytes, Utf8.decode_encode, hread, Document.named_ofPairs, Except.ok.injEq]
  exact List.map_congr_left fun member hmember => congrArg _ (hwhole member hmember)

end Stencil
