import Mathlib.Data.List.Infix
import Stencil.Text.Basic

/-!
What a cut says about a text. A part occurs in a text if it is an infix of it, and it occurs first behind
`before` if `before ++ part`, without its last character, does not hold it. In this form the claim that an
occurrence is the first does not speak of what follows it, so a cut stays where it is when the text behind
it is exchanged.
-/

namespace Stencil.Text

theorem cutFrom?_eq (part seen text : Text) :
    cutFrom? part seen text =
      (cut? part text).map fun (before, after) => (seen.reverse ++ before, after) := by
  induction text generalizing seen with
  | nil => cases h : after? part [] <;> simp [cut?, cutFrom?, h]
  | cons c text ih =>
    cases h : after? part (c :: text) with
    | some rest => simp [cut?, cutFrom?, h]
    | none =>
      simp only [cut?, cutFrom?, h]
      rw [ih (c :: seen), ih [c]]
      simp [Function.comp_def]

theorem cut?_nil_right (part : Text) :
    cut? part [] = (after? part []).map fun rest => ([], rest) := rfl

theorem cut?_cons_of_some {part text rest : Text} {c : Char}
    (h : after? part (c :: text) = some rest) : cut? part (c :: text) = some ([], rest) := by
  simp [cut?, cutFrom?, h]

theorem cut?_cons_of_none {part text : Text} {c : Char} (h : after? part (c :: text) = none) :
    cut? part (c :: text) =
      (cut? part text).map fun (before, after) => (c :: before, after) := by
  rw [cut?, cutFrom?, h]
  exact cutFrom?_eq part [c] text

theorem after?_eq_none_iff {part text : Text} : after? part text = none ↔ ¬ part <+: text := by
  rw [Option.eq_none_iff_forall_ne_some]
  constructor
  · rintro h ⟨rest, rfl⟩
    exact h rest (after?_append part rest)
  · intro h rest hrest
    exact h ⟨rest, (after?_eq_some_iff.1 hrest).symm⟩

/-- A search comes back empty exactly where the part does not occur. -/
theorem cut?_eq_none_iff {part text : Text} : cut? part text = none ↔ ¬ part <:+: text := by
  induction text with
  | nil =>
    rw [cut?_nil_right, Option.map_eq_none_iff, after?_eq_none_iff]
    simp
  | cons c text ih =>
    rw [List.infix_cons_iff]
    cases h : after? part (c :: text) with
    | some rest =>
      have hstarts : part <+: c :: text := ⟨rest, (after?_eq_some_iff.1 h).symm⟩
      simp [cut?_cons_of_some h, hstarts]
    | none =>
      have hstarts := after?_eq_none_iff.1 h
      rw [cut?_cons_of_none h, Option.map_eq_none_iff, ih]
      simp [hstarts]

theorem length_le_of_cut? {part text before after front back : Text}
    (h : cut? part text = some (before, after)) (htext : text = front ++ part ++ back) :
    before.length ≤ front.length := by
  induction text generalizing before after front with
  | nil =>
    rw [cut?_nil_right, Option.map_eq_some_iff] at h
    obtain ⟨rest, -, hrest⟩ := h
    rw [← (Prod.mk.inj hrest).1]
    exact Nat.zero_le _
  | cons c text ih =>
    cases hstarts : after? part (c :: text) with
    | some rest =>
      rw [cut?_cons_of_some hstarts, Option.some.injEq, Prod.mk.injEq] at h
      rw [← h.1]
      exact Nat.zero_le _
    | none =>
      rw [cut?_cons_of_none hstarts, Option.map_eq_some_iff] at h
      obtain ⟨⟨between, rest⟩, hcut, heq⟩ := h
      rw [← (Prod.mk.inj heq).1]
      cases front with
      | nil => exact absurd ⟨back, htext.symm⟩ (after?_eq_none_iff.1 hstarts)
      | cons d front =>
        have hbetween := ih hcut (List.cons.inj htext).2
        exact Nat.succ_le_succ hbetween

theorem cut?_eq_some_iff_first {part text before after : Text} :
    cut? part text = some (before, after) ↔ text = before ++ part ++ after ∧
      ∀ front back, text = front ++ part ++ back → before.length ≤ front.length := by
  constructor
  · intro h
    exact ⟨cut?_eq_some h, fun front back => length_le_of_cut? h⟩
  · rintro ⟨htext, hfirst⟩
    cases hcut : cut? part text with
    | none => exact absurd ⟨before, after, htext.symm⟩ (cut?_eq_none_iff.1 hcut)
    | some cut =>
      obtain ⟨front, back⟩ := cut
      have hother := cut?_eq_some hcut
      have hlength : before.length = front.length :=
        Nat.le_antisymm (hfirst front back hother) (length_le_of_cut? hcut htext)
      rw [htext, List.append_assoc, List.append_assoc] at hother
      obtain ⟨rfl, hrest⟩ := List.append_inj hother hlength
      rw [List.append_cancel_left hrest]

theorem not_infix_dropLast {part : Text} (hpart : part ≠ []) : ¬ part <:+: part.dropLast := by
  intro h
  have hlength := h.length_le
  have hpos := List.length_pos_iff.2 hpart
  simp only [List.length_dropLast] at hlength
  omega

theorem eq_nil_of_isPrefix {part before after : Text} (hstarts : part <+: before ++ part ++ after)
    (hfirst : ¬ part <:+: (before ++ part).dropLast) : before = [] := by
  cases before with
  | nil => rfl
  | cons c before =>
    have hshort : (c :: before ++ part).dropLast <+: c :: before ++ part ++ after :=
      (List.dropLast_prefix _).trans (List.prefix_append _ _)
    have hlength : part.length ≤ (c :: before ++ part).dropLast.length := by simp
    exact absurd (List.prefix_of_prefix_length_le hstarts hshort hlength).isInfix hfirst

theorem infix_dropLast_cons_iff {part before after : Text} {c : Char} (hpart : part ≠ [])
    (hstarts : ¬ part <+: c :: (before ++ part ++ after)) :
    part <:+: (c :: before ++ part).dropLast ↔ part <:+: (before ++ part).dropLast := by
  have hne : before ++ part ≠ [] := by simp [hpart]
  rw [List.cons_append, List.dropLast_cons_of_ne_nil hne, List.infix_cons_iff]
  refine or_iff_right fun hstart => hstarts (hstart.trans ?_)
  exact (List.prefix_cons_inj c).2 ((List.dropLast_prefix _).trans (List.prefix_append _ _))

/-- A search stops behind `before` exactly if the part is there and does not occur any sooner. -/
theorem cut?_eq_some_iff {part text before after : Text} (hpart : part ≠ []) :
    cut? part text = some (before, after) ↔
      text = before ++ part ++ after ∧ ¬ part <:+: (before ++ part).dropLast := by
  induction text generalizing before with
  | nil =>
    rw [cut?_nil_right, after?_eq_none_iff.2 (by simpa using hpart)]
    simp [hpart, eq_comm]
  | cons c text ih =>
    cases h : after? part (c :: text) with
    | some rest =>
      have htext := after?_eq_some_iff.1 h
      rw [cut?_cons_of_some h, Option.some.injEq, Prod.mk.injEq]
      constructor
      · rintro ⟨rfl, rfl⟩
        exact ⟨by simpa using htext, by simpa using not_infix_dropLast hpart⟩
      · rintro ⟨hbefore, hfirst⟩
        have hstarts : part <+: before ++ part ++ after := ⟨rest, by rw [← htext, hbefore]⟩
        obtain rfl := eq_nil_of_isPrefix hstarts hfirst
        rw [htext, List.nil_append, List.append_cancel_left_eq] at hbefore
        exact ⟨rfl, hbefore⟩
    | none =>
      have hstarts := after?_eq_none_iff.1 h
      rw [cut?_cons_of_none h]
      -- The part does not stand at the very start, so `before` begins with the same character.
      cases before with
      | nil =>
        simp only [Option.map_eq_some_iff, Prod.mk.injEq, reduceCtorEq, false_and, and_false,
          exists_false, List.nil_append, false_iff, not_and]
        intro htext
        exact absurd ⟨after, htext.symm⟩ hstarts
      | cons d before =>
        have hmap : ((cut? part text).map fun (before, after) => (c :: before, after)) =
            some (d :: before, after) ↔ c = d ∧ cut? part text = some (before, after) := by
          cases cut? part text <;> grind
        rw [hmap, ih, List.cons_append, List.cons_append, List.cons.injEq, and_assoc]
        refine and_congr_right fun hc => and_congr_right fun htext => ?_
        rw [← List.cons_append, infix_dropLast_cons_iff hpart (by rwa [← hc, ← htext])]

theorem cut?_exchange {part text before after : Text} (hpart : part ≠ [])
    (h : cut? part text = some (before, after)) (other : Text) :
    cut? part (before ++ part ++ other) = some (before, other) :=
  (cut?_eq_some_iff hpart).2 ⟨rfl, ((cut?_eq_some_iff hpart).1 h).2⟩

theorem cut?_append {part text before after : Text} (hpart : part ≠ [])
    (h : cut? part text = some (before, after)) (more : Text) :
    cut? part (text ++ more) = some (before, after ++ more) := by
  have hsame : text ++ more = before ++ part ++ (after ++ more) := by simp [cut?_eq_some h]
  rw [hsame]
  exact cut?_exchange hpart h (after ++ more)

theorem cut?_self_append {part : Text} (hpart : part ≠ []) (after : Text) :
    cut? part (part ++ after) = some ([], after) :=
  (cut?_eq_some_iff hpart).2 ⟨rfl, not_infix_dropLast hpart⟩

/-- Induction over a text from one occurrence of a part to the next. -/
@[elab_as_elim]
theorem cut_induction {part : Text} (hpart : part ≠ []) {motive : Text → Prop} (text : Text)
    (last : ∀ text, cut? part text = none → motive text)
    (next : ∀ text before after, cut? part text = some (before, after) → motive after → motive text) :
    motive text := by
  induction text using WellFounded.induction (measure List.length).wf with
  | _ text ih =>
    cases hcut : cut? part text with
    | none => exact last text hcut
    | some cut =>
      obtain ⟨before, after⟩ := cut
      exact next text before after hcut (ih after (length_lt_of_cut? hpart hcut))

theorem cut?_singleton {c : Char} {before : Text} (h : c ∉ before) (after : Text) :
    cut? [c] (before ++ c :: after) = some (before, after) := by
  rw [cut?_eq_some_iff (by simp), List.dropLast_concat]
  exact ⟨by simp, fun hoccurs => h (hoccurs.subset (by simp))⟩

theorem not_infix_of_cut? {part text before after : Text} (hpart : part ≠ [])
    (h : cut? part text = some (before, after)) : ¬ part <:+: before := by
  intro hbefore
  refine ((cut?_eq_some_iff hpart).1 h).2 (hbefore.trans ?_)
  rw [List.dropLast_append_of_ne_nil hpart]
  exact (List.prefix_append _ _).isInfix

/-! ### Where two texts meet -/

/-- Behind a text into which no occurrence reaches, the search comes out where it does in what follows alone. -/
theorem cut?_append_of_passed {part front : Text} (hpart : part ≠ [])
    (hpassed : ∀ back, part <:+: front ++ back → part <:+: back) (more : Text) :
    cut? part (front ++ more) = (cut? part more).map fun (before, after) => (front ++ before, after) := by
  cases hcut : cut? part more with
  | none =>
    rw [cut?_eq_none_iff] at hcut
    rw [Option.map_none, cut?_eq_none_iff]
    exact fun hoccurs => hcut (hpassed more hoccurs)
  | some cut =>
    obtain ⟨before, after⟩ := cut
    obtain ⟨hmore, hfirst⟩ := (cut?_eq_some_iff hpart).1 hcut
    have hfront : (front ++ before ++ part).dropLast = front ++ (before ++ part).dropLast := by
      rw [List.append_assoc, List.dropLast_append_of_ne_nil (by simp [hpart])]
    rw [Option.map_some, cut?_eq_some_iff hpart, hfront]
    exact ⟨by simp [hmore], fun hoccurs => hfirst (hpassed _ hoccurs)⟩

/-- The text does not end in a beginning of the part, the empty one and the whole part apart. So no occurrence
begins in the text and ends behind it. -/
def Unbegun (part text : Text) : Prop :=
  ∀ start, start <+: part → start <:+ text → start = [] ∨ start = part

instance (part text : Text) : Decidable (Unbegun part text) :=
  decidable_of_iff (∀ start ∈ part.inits, start <:+ text → start = [] ∨ start = part)
    (forall_congr' fun start => by rw [List.mem_inits])

theorem Unbegun.of_suffix {part text back : Text} (h : Unbegun part text) (hback : back <:+ text) :
    Unbegun part back :=
  fun start hstart hends => h start hstart (hends.trans hback)

theorem Unbegun.infix_or_infix {part text more : Text} (h : Unbegun part text)
    (hoccurs : part <:+: text ++ more) : part <:+: text ∨ part <:+: more := by
  rcases List.infix_append_iff.1 hoccurs with hin | hin | ⟨start, stop, hsplit, hends, hbegins⟩
  · exact .inl hin
  · exact .inr hin
  · rcases h start ⟨stop, hsplit.symm⟩ hends with hnil | hwhole
    · right
      rw [hsplit, hnil]
      exact hbegins.isInfix
    · left
      exact hwhole ▸ hends.isInfix

/-- Behind a text in which the part neither occurs nor begins, the search comes out where it does in what
follows alone. -/
theorem Unbegun.cut?_append {part text : Text} (hpart : part ≠ []) (h : Unbegun part text)
    (hnone : ¬ part <:+: text) (more : Text) :
    cut? part (text ++ more) = (cut? part more).map fun (before, after) => (text ++ before, after) :=
  cut?_append_of_passed hpart (fun _ hoccurs => (h.infix_or_infix hoccurs).resolve_left hnone) more

theorem infix_or_infix_of_notMem {part front back : Text} {c : Char} (hc : c ∉ part)
    (h : part <:+: front ++ c :: back) : part <:+: front ∨ part <:+: back := by
  obtain ⟨before, after, heq⟩ := h
  rw [List.append_assoc, List.append_eq_append_iff] at heq
  rcases heq with ⟨inner, hfront, hpart⟩ | ⟨inner, hbefore, hback⟩
  · -- The part begins in front of the character and so ends in front of it.
    rcases List.append_eq_append_iff.1 hpart with ⟨more, hinner, -⟩ | ⟨more, hsplit, hmore⟩
    · exact .inl ⟨before, more, by rw [hfront, hinner, List.append_assoc]⟩
    · cases more with
      | nil => exact .inl ⟨before, [], by rw [hfront, hsplit]; simp⟩
      | cons d more =>
        rw [List.cons_append, List.cons.injEq] at hmore
        exact absurd (by rw [hsplit, ← hmore.1]; simp) hc
  · cases inner with
    | nil =>
      cases part with
      | nil => exact .inl (List.nil_infix)
      | cons d part =>
        rw [List.nil_append, List.cons_append, List.cons.injEq] at hback
        exact absurd (by simp [hback.1]) hc
    | cons d inner =>
      rw [List.cons_append, List.cons.injEq] at hback
      exact .inr ⟨inner, after, by rw [hback.2, List.append_assoc]⟩

theorem infix_or_infix_of_apart {part front middle back : Text} (hmiddle : middle ≠ [])
    (hapart : ∀ c ∈ middle, c ∉ part) (h : part <:+: front ++ (middle ++ back)) :
    part <:+: front ∨ part <:+: back := by
  induction middle generalizing front with
  | nil => exact absurd rfl hmiddle
  | cons c middle ih =>
    rcases infix_or_infix_of_notMem (hapart c List.mem_cons_self) h with hfront | hrest
    · exact .inl hfront
    · by_cases hlast : middle = []
      · exact .inr (by simpa [hlast] using hrest)
      · have hapart' : ∀ d ∈ middle, d ∉ part := fun d hd => hapart d (List.mem_cons_of_mem c hd)
        have hnothing : part <:+: [] ++ (middle ++ back) := by simpa using hrest
        rcases ih hlast hapart' hnothing with hnil | hback
        · exact .inl (List.infix_nil.1 hnil ▸ List.nil_infix)
        · exact .inr hback

end Stencil.Text
