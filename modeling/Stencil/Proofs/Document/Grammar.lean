import Stencil.Proofs.Document.Loading
import Stencil.Proofs.Text.Lines

/-!
Which texts are documents. The grammar is that of the standard with what the reader takes besides: the three words
for numbers that are not finite, and halves of pairs that stand alone among the escapes. And it is that of the
standard without whole numbers of more than 4300 digits, which the reader does not turn into numbers. The values that
the parts of a document stand for do not matter here, so every part is a set of texts. How deep they stand in one
another is not limited.

Nothing in it says how far a number goes or which of two readings comes first. That there is never a choice is what
has to be proved of the reader: whatever may come behind a value cannot go on with it (`Behind`).
-/

namespace Stencil

namespace Document

/-! ### Strings and numbers -/

def IsHex (c : Char) : Prop :=
  ('0' ≤ c ∧ c ≤ '9') ∨ ('a' ≤ c ∧ c ≤ 'f') ∨ ('A' ≤ c ∧ c ≤ 'F')

/-- What may stand between quotes: characters that stand for themselves, letters that are escaped, and numbers
in four hexadecimal digits. -/
inductive Quotable : Text → Prop
  | nil : Quotable []
  | bare {c : Char} {rest : Text} : 0x20 ≤ c.toNat → c ≠ '"' → c ≠ '\\' → Quotable rest → Quotable (c :: rest)
  | short {letter : Char} {rest : Text} : letter ∈ ['"', '\\', '/', 'b', 'f', 'n', 'r', 't'] → Quotable rest →
      Quotable ('\\' :: letter :: rest)
  | number {a b c d : Char} {rest : Text} : IsHex a → IsHex b → IsHex c → IsHex d → Quotable rest →
      Quotable ('\\' :: 'u' :: a :: b :: c :: d :: rest)

def IsString (text : Text) : Prop :=
  ∃ body, Quotable body ∧ text = '"' :: (body ++ ['"'])

/-- One digit at least. -/
def IsDigits (text : Text) : Prop :=
  text ≠ [] ∧ ∀ c ∈ text, isDigit c = true

/-- The digits before the point. Zero is the only number that begins with a zero. -/
def IsWhole (text : Text) : Prop :=
  IsDigits text ∧ (text.head? = some '0' → text = ['0'])

inductive IsFraction : Text → Prop
  | absent : IsFraction []
  | present {digits : Text} : IsDigits digits → IsFraction ('.' :: digits)

inductive IsPower : Text → Prop
  | absent : IsPower []
  | present {e : Char} {sign digits : Text} : e ∈ ['e', 'E'] → sign ∈ [[], ['+'], ['-']] → IsDigits digits →
      IsPower (e :: (sign ++ digits))

/-- A number without its sign. One without a point and a power of ten is a whole number, and has at most 4300
digits. -/
inductive IsUnsigned : Text → Prop
  | unsigned {whole fraction power : Text} : IsWhole whole → IsFraction fraction → IsPower power →
      (fraction = [] → power = [] → whole.length ≤ 4300) → IsUnsigned (whole ++ (fraction ++ power))

inductive IsNumber : Text → Prop
  | positive {text : Text} : IsUnsigned text → IsNumber text
  | negative {text : Text} : IsUnsigned text → IsNumber ('-' :: text)

inductive IsScalar : Text → Prop
  | word {word : String} : word ∈ ["null", "true", "false", "NaN", "Infinity", "-Infinity"] →
      IsScalar word.toList
  | number {text : Text} : IsNumber text → IsScalar text

/-! ### Values -/

/-- The parts that a document is made of, apart from strings and numbers. -/
inductive Part
  | value
  | object
  | items
  | member
  | members

/-- The texts that are such a part. Gaps may stand wherever two parts or brackets meet. -/
inductive Is : Part → Text → Prop
  | scalar {text : Text} : IsScalar text → Is .value text
  | string {text : Text} : IsString text → Is .value text
  | emptyList {gap : Text} : IsWidth gap → Is .value ('[' :: (gap ++ [']']))
  | list {gap items after : Text} : IsWidth gap → Is .items items → IsWidth after →
      Is .value ('[' :: (gap ++ (items ++ (after ++ [']']))))
  | object {text : Text} : Is .object text → Is .value text
  | emptyObject {gap : Text} : IsWidth gap → Is .object ('{' :: (gap ++ ['}']))
  | fullObject {gap members after : Text} : IsWidth gap → Is .members members → IsWidth after →
      Is .object ('{' :: (gap ++ (members ++ (after ++ ['}']))))
  | item {text : Text} : Is .value text → Is .items text
  | moreItems {item before after items : Text} : Is .value item → IsWidth before → IsWidth after →
      Is .items items → Is .items (item ++ (before ++ ',' :: (after ++ items)))
  | member {name before after value : Text} : IsString name → IsWidth before → IsWidth after →
      Is .value value → Is .member (name ++ (before ++ ':' :: (after ++ value)))
  | lastMember {text : Text} : Is .member text → Is .members text
  | moreMembers {member before after members : Text} : Is .member member → IsWidth before → IsWidth after →
      Is .members members → Is .members (member ++ (before ++ ',' :: (after ++ members)))

/-- A document that is one object, with gaps before and behind it. -/
def IsObjectDocument (text : Text) : Prop :=
  ∃ before object after, text = before ++ (object ++ after) ∧ IsWidth before ∧ Is .object object ∧
    IsWidth after

/-! ### Line ends

A line end is a gap wherever it stands in a document, so it does not matter how lines are ended. -/

/-- The second text is the first one with gaps in the places of its carriage returns and line feeds. -/
inductive Regapped : Text → Text → Prop
  | nil : Regapped [] []
  | same {c : Char} {text other : Text} : c ∉ ['\n', '\r'] → Regapped text other →
      Regapped (c :: text) (c :: other)
  | gap {c : Char} {gap text other : Text} : c ∈ ['\n', '\r'] → IsWidth gap → Regapped text other →
      Regapped (c :: text) (gap ++ other)

theorem regapped_lineFed (text : Text) : Regapped text text.lineFed ∧ Regapped text.lineFed text := by
  have hnone : IsWidth [] := nofun
  have hfeed : IsWidth ['\n'] := by decide
  have hreturn : IsWidth ['\r'] := by decide
  have hboth : IsWidth ['\r', '\n'] := by decide
  induction text using WellFounded.induction (measure List.length).wf with
  | _ text ih =>
    cases text with
    | nil =>
      rw [Text.lineFed_nil]
      exact ⟨.nil, .nil⟩
    | cons c rest =>
      obtain ⟨hto, hfrom⟩ := ih rest (Nat.lt_succ_self rest.length)
      by_cases hc : c = '\r'
      · subst hc
        by_cases hhead : rest.head? = some '\n'
        · -- A carriage return before a line feed is taken for nothing, or put back together with it.
          obtain ⟨rest, rfl⟩ := List.head?_eq_some_iff.1 hhead
          obtain ⟨hto, hfrom⟩ := ih rest (show rest.length < rest.length + 2 by omega)
          rw [Text.lineFed_return_feed]
          exact ⟨.gap (by decide) hnone (.gap (by decide) hfeed hto), .gap (by decide) hboth hfrom⟩
        · rw [Text.lineFed_return hhead]
          exact ⟨.gap (by decide) hfeed hto, .gap (by decide) hreturn hfrom⟩
      · rw [Text.lineFed_cons hc]
        by_cases hline : c = '\n'
        · subst hline
          exact ⟨.gap (by decide) hfeed hto, .gap (by decide) hfeed hfrom⟩
        · have hplain : c ∉ ['\n', '\r'] := by simp [hline, hc]
          exact ⟨.same hplain hto, .same hplain hfrom⟩

theorem Regapped.append_inv {front back other : Text} (h : Regapped (front ++ back) other) :
    ∃ otherFront otherBack, other = otherFront ++ otherBack ∧ Regapped front otherFront ∧
      Regapped back otherBack := by
  induction front generalizing other with
  | nil => exact ⟨[], other, rfl, .nil, h⟩
  | cons c front ih =>
    cases h with
    | same hc hrest =>
      obtain ⟨otherFront, otherBack, rfl, hfront, hback⟩ := ih hrest
      exact ⟨c :: otherFront, otherBack, rfl, .same hc hfront, hback⟩
    | @gap _ gap _ _ hc hgap hrest =>
      obtain ⟨otherFront, otherBack, rfl, hfront, hback⟩ := ih hrest
      exact ⟨gap ++ otherFront, otherBack, by simp, .gap hc hgap hfront, hback⟩

theorem Regapped.cons_inv {c : Char} {text other : Text} (h : Regapped (c :: text) other)
    (hc : c ∉ ['\n', '\r']) : ∃ rest, other = c :: rest ∧ Regapped text rest := by
  cases h with
  | same _ hrest => exact ⟨_, rfl, hrest⟩
  | gap hline _ _ => exact absurd hline hc

theorem Regapped.eq_of_plain {text other : Text} (h : Regapped text other) (hplain : ∀ c ∈ text, c ∉ ['\n', '\r']) :
    other = text := by
  induction h with
  | nil => rfl
  | same _ _ ih => rw [ih fun c hc => hplain c (List.mem_cons_of_mem _ hc)]
  | gap hc _ _ => exact absurd hc (hplain _ List.mem_cons_self)

theorem IsWidth.regapped {gap other : Text} (hgap : IsWidth gap) (h : Regapped gap other) : IsWidth other := by
  induction h with
  | nil => exact nofun
  | same _ _ ih =>
    obtain ⟨hc, hrest⟩ := List.forall_mem_cons.1 hgap
    exact List.forall_mem_cons.2 ⟨hc, ih hrest⟩
  | gap _ hinside _ ih => exact List.forall_mem_append.2 ⟨hinside, ih (List.forall_mem_cons.1 hgap).2⟩

theorem Regapped.joined_inv {left before after right other : Text} {c : Char}
    (h : Regapped (left ++ (before ++ c :: (after ++ right))) other) (hc : c ∉ ['\n', '\r'])
    (hbefore : IsWidth before) (hafter : IsWidth after) :
    ∃ otherLeft otherBefore otherAfter otherRight,
      other = otherLeft ++ (otherBefore ++ c :: (otherAfter ++ otherRight)) ∧ Regapped left otherLeft ∧
        IsWidth otherBefore ∧ IsWidth otherAfter ∧ Regapped right otherRight := by
  obtain ⟨otherLeft, _, rfl, hleft, h⟩ := h.append_inv
  obtain ⟨otherBefore, _, rfl, hgap, h⟩ := h.append_inv
  obtain ⟨_, rfl, htail⟩ := h.cons_inv hc
  obtain ⟨otherAfter, otherRight, rfl, hbehind, hright⟩ := htail.append_inv
  exact ⟨otherLeft, otherBefore, otherAfter, otherRight, rfl, hleft, hbefore.regapped hgap,
    hafter.regapped hbehind, hright⟩

theorem Regapped.empty_inv {gap other : Text} {opening closing : Char}
    (h : Regapped (opening :: (gap ++ [closing])) other) (hopening : opening ∉ ['\n', '\r'])
    (hclosing : closing ∉ ['\n', '\r']) (hgap : IsWidth gap) :
    ∃ otherGap, other = opening :: (otherGap ++ [closing]) ∧ IsWidth otherGap := by
  obtain ⟨_, rfl, htail⟩ := h.cons_inv hopening
  obtain ⟨otherGap, _, rfl, hinside, htail⟩ := htail.append_inv
  rw [htail.eq_of_plain (by simpa using hclosing)]
  exact ⟨otherGap, rfl, hgap.regapped hinside⟩

theorem Regapped.enclosed_inv {gap part after other : Text} {opening closing : Char}
    (h : Regapped (opening :: (gap ++ (part ++ (after ++ [closing])))) other)
    (hopening : opening ∉ ['\n', '\r']) (hclosing : closing ∉ ['\n', '\r']) (hgap : IsWidth gap)
    (hafter : IsWidth after) :
    ∃ otherGap otherPart otherAfter, other = opening :: (otherGap ++ (otherPart ++ (otherAfter ++ [closing]))) ∧
      IsWidth otherGap ∧ Regapped part otherPart ∧ IsWidth otherAfter := by
  obtain ⟨_, rfl, htail⟩ := h.cons_inv hopening
  obtain ⟨otherGap, _, rfl, hinside, htail⟩ := htail.append_inv
  obtain ⟨otherPart, _, rfl, hpart, htail⟩ := htail.append_inv
  obtain ⟨otherAfter, _, rfl, hbehind, htail⟩ := htail.append_inv
  rw [htail.eq_of_plain (by simpa using hclosing)]
  exact ⟨otherGap, otherPart, otherAfter, rfl, hgap.regapped hinside, hpart, hafter.regapped hbehind⟩

theorem IsHex.plain {c : Char} (h : IsHex c) : c ∉ ['\n', '\r'] := by
  intro hc
  simp only [List.mem_cons, List.not_mem_nil, or_false] at hc
  rcases hc with rfl | rfl <;> exact absurd h (by simp [IsHex])

theorem Quotable.plain {body : Text} (h : Quotable body) : ∀ c ∈ body, c ∉ ['\n', '\r'] := by
  induction h with
  | nil => exact nofun
  | @bare c _ hprintable _ _ _ ih =>
    refine List.forall_mem_cons.2 ⟨fun hc => ?_, ih⟩
    simp only [List.mem_cons, List.not_mem_nil, or_false] at hc
    rcases hc with rfl | rfl <;> exact absurd hprintable (by decide)
  | short hletter _ ih =>
    have hall : ∀ letter ∈ ['"', '\\', '/', 'b', 'f', 'n', 'r', 't'], letter ∉ ['\n', '\r'] := by simp
    exact List.forall_mem_cons.2 ⟨by decide, List.forall_mem_cons.2 ⟨hall _ hletter, ih⟩⟩
  | number ha hb hc hd _ ih =>
    simp only [List.forall_mem_cons]
    exact ⟨by decide, by decide, ha.plain, hb.plain, hc.plain, hd.plain, ih⟩

theorem IsString.plain {text : Text} (h : IsString text) : ∀ c ∈ text, c ∉ ['\n', '\r'] := by
  obtain ⟨body, hbody, rfl⟩ := h
  exact List.forall_mem_cons.2 ⟨by decide, List.forall_mem_append.2 ⟨hbody.plain, by simp⟩⟩

theorem IsDigits.plain {digits : Text} (h : IsDigits digits) : ∀ c ∈ digits, c ∉ ['\n', '\r'] :=
  fun c hc => notMem_of_isDigit (h.2 c hc) (by simp [isDigit])

theorem IsUnsigned.plain {number : Text} (h : IsUnsigned number) : ∀ c ∈ number, c ∉ ['\n', '\r'] := by
  obtain ⟨hwhole, hfraction, hpower, -⟩ := h
  refine List.forall_mem_append.2 ⟨hwhole.1.plain, List.forall_mem_append.2 ⟨?_, ?_⟩⟩
  · cases hfraction with
    | absent => exact nofun
    | present hdigits => exact List.forall_mem_cons.2 ⟨by decide, hdigits.plain⟩
  · cases hpower with
    | absent => exact nofun
    | @present e sign digits he hsign hdigits =>
      have hall : ∀ e ∈ ['e', 'E'], e ∉ ['\n', '\r'] := by simp
      have hallSigns : ∀ sign ∈ [[], ['+'], ['-']], ∀ c ∈ sign, c ∉ ['\n', '\r'] := by simp
      exact List.forall_mem_cons.2 ⟨hall e he, List.forall_mem_append.2 ⟨hallSigns sign hsign, hdigits.plain⟩⟩

theorem IsScalar.plain {text : Text} (h : IsScalar text) : ∀ c ∈ text, c ∉ ['\n', '\r'] := by
  cases h with
  | word hword =>
    have hall : ∀ word ∈ ["null", "true", "false", "NaN", "Infinity", "-Infinity"],
        ∀ c ∈ word.toList, c ∉ ['\n', '\r'] := by simp
    exact hall _ hword
  | number hnumber =>
    cases hnumber with
    | positive hunsigned => exact hunsigned.plain
    | negative hunsigned => exact List.forall_mem_cons.2 ⟨by decide, hunsigned.plain⟩

theorem Is.regapped {part : Part} {text other : Text} (his : Is part text) (h : Regapped text other) :
    Is part other := by
  induction his generalizing other with
  | scalar hscalar => exact h.eq_of_plain hscalar.plain ▸ .scalar hscalar
  | string hstring => exact h.eq_of_plain hstring.plain ▸ .string hstring
  | emptyList hgap =>
    obtain ⟨_, rfl, hother⟩ := h.empty_inv (by decide) (by decide) hgap
    exact .emptyList hother
  | list hgap _ hafter ih =>
    obtain ⟨_, _, _, rfl, hinside, hitems, hbehind⟩ := h.enclosed_inv (by decide) (by decide) hgap hafter
    exact .list hinside (ih hitems) hbehind
  | object _ ih => exact .object (ih h)
  | emptyObject hgap =>
    obtain ⟨_, rfl, hother⟩ := h.empty_inv (by decide) (by decide) hgap
    exact .emptyObject hother
  | fullObject hgap _ hafter ih =>
    obtain ⟨_, _, _, rfl, hinside, hmembers, hbehind⟩ := h.enclosed_inv (by decide) (by decide) hgap hafter
    exact .fullObject hinside (ih hmembers) hbehind
  | item _ ih => exact .item (ih h)
  | moreItems _ hbefore hafter _ ihItem ihItems =>
    obtain ⟨_, _, _, _, rfl, hitem, hgap, hbehind, hitems⟩ := h.joined_inv (by decide) hbefore hafter
    exact .moreItems (ihItem hitem) hgap hbehind (ihItems hitems)
  | member hname hbefore hafter _ ih =>
    obtain ⟨_, _, _, _, rfl, hquoted, hgap, hbehind, hvalue⟩ := h.joined_inv (by decide) hbefore hafter
    rw [hquoted.eq_of_plain hname.plain]
    exact .member hname hgap hbehind (ih hvalue)
  | lastMember _ ih => exact .lastMember (ih h)
  | moreMembers _ hbefore hafter _ ihMember ihMembers =>
    obtain ⟨_, _, _, _, rfl, hmember, hgap, hbehind, hmembers⟩ := h.joined_inv (by decide) hbefore hafter
    exact .moreMembers (ihMember hmember) hgap hbehind (ihMembers hmembers)

theorem IsObjectDocument.regapped {text other : Text} (h : IsObjectDocument text) (hother : Regapped text other) :
    IsObjectDocument other := by
  obtain ⟨before, object, after, rfl, hbefore, hobject, hafter⟩ := h
  obtain ⟨_, _, rfl, hfront, hrest⟩ := hother.append_inv
  obtain ⟨_, _, rfl, hinside, hback⟩ := hrest.append_inv
  exact ⟨_, _, _, rfl, hbefore.regapped hfront, hobject.regapped hinside, hafter.regapped hback⟩

/-- Whether a text is a document that is one object does not depend on how its lines are ended. -/
theorem isObjectDocument_lineFed (text : Text) : IsObjectDocument text.lineFed ↔ IsObjectDocument text :=
  ⟨fun h => h.regapped (regapped_lineFed text).2, fun h => h.regapped (regapped_lineFed text).1⟩

end Document

end Stencil
