import Stencil.Proofs.Document.Grammar

/-!
Strings, numbers and words, as the reader takes them and as the grammar has them. A string is over at its first
quote that is not escaped. A number has no end of its own: the reader goes on with it as long as it can, and that is
as far as the grammar goes because of what may come behind a value (`Behind`).
-/

namespace Stencil

namespace Document

variable {text rest : Text}

/-! ### Strings -/

theorem isHex_iff {c : Char} : IsHex c ↔ ∃ n, hexValue? c = some n := by
  unfold IsHex hexValue?
  constructor
  · rintro (h | h | h) <;> split_ifs <;> simp
  · rintro ⟨n, hn⟩
    split_ifs at hn with hdigit hsmall hcapital
    · exact .inl hdigit
    · exact .inr (.inl hsmall)
    · exact .inr (.inr hcapital)

theorem exists_hexValue4?_iff {a b c d : Char} :
    (∃ n, hexValue4? a b c d = some n) ↔ IsHex a ∧ IsHex b ∧ IsHex c ∧ IsHex d := by
  simp only [isHex_iff, hexValue4?]
  cases hexValue? a <;> cases hexValue? b <;> cases hexValue? c <;> cases hexValue? d <;> simp

theorem exists_escaped?_iff {c : Char} :
    (∃ d, escaped? c = some d) ↔ c ∈ ['"', '\\', '/', 'b', 'f', 'n', 'r', 't'] := by
  unfold escaped?
  split_ifs with hself
  · rcases hself with rfl | rfl | rfl <;> simp
  all_goals simp_all

theorem exists_quotable {left : Nat} {seen : List Nat} {found : Str}
    (h : stringFrom left seen text = .ok (found, rest)) :
    ∃ body, Quotable body ∧ text = body ++ '"' :: rest := by
  fun_induction stringFrom left seen text with
  | case1 | case3 | case4 | case6 | case7 | case9 => simp [flawAt] at h
  | case2 seen behind =>
    obtain ⟨-, rfl⟩ := Prod.mk.inj (Except.ok.inj h)
    exact ⟨[], .nil, rfl⟩
  | case5 seen a b c d e behind n hvalue ih =>
    obtain ⟨body, hbody, htext⟩ := ih h
    obtain ⟨ha, hb, hc, hd⟩ := exists_hexValue4?_iff.1 ⟨n, hvalue⟩
    exact ⟨_, .number ha hb hc hd hbody, by simp [htext]⟩
  | case8 seen letter behind _ _ c hletter ih =>
    obtain ⟨body, hbody, rfl⟩ := ih h
    exact ⟨_, .short (exists_escaped?_iff.1 ⟨c, hletter⟩) hbody, rfl⟩
  | case10 seen c behind hquote hend _ _ hescape hprintable ih =>
    obtain ⟨body, hbody, rfl⟩ := ih h
    have hbackslash : c ≠ '\\' := by
      rintro rfl
      obtain ⟨next, more, hnext⟩ := List.exists_cons_of_ne_nil (show body ++ '"' :: rest ≠ [] by simp)
      exact hescape next more rfl hnext
    exact ⟨_, .bare (Nat.not_lt.1 hprintable) hquote hbackslash hbody, rfl⟩

theorem Quotable.read {body : Text} (h : Quotable body) (left : Nat) (seen : List Nat) (rest : Text) :
    ∃ found, stringFrom left seen (body ++ '"' :: rest) = .ok (found, rest) := by
  induction h generalizing seen with
  | nil => exact ⟨_, rfl⟩
  | bare hprintable hquote hescape _ ih =>
    rw [List.cons_append, stringFrom_bare hprintable hquote hescape]
    exact ih _
  | @short letter behind hletter _ ih =>
    obtain ⟨c, hc⟩ := exists_escaped?_iff.2 hletter
    have hu : letter ≠ 'u' := by
      rintro rfl
      exact absurd hletter (by decide)
    rw [List.cons_append, List.cons_append, stringFrom_short hu hc]
    exact ih _
  | @number a b c d behind ha hb hc hd _ ih =>
    obtain ⟨n, hn⟩ := exists_hexValue4?_iff.2 ⟨ha, hb, hc, hd⟩
    obtain ⟨next, more, hnext⟩ := List.exists_cons_of_ne_nil (show behind ++ '"' :: rest ≠ [] by simp)
    have hread := ih (n :: seen)
    simp only [List.cons_append, hnext, stringFrom, hn] at hread ⊢
    exact hread

/-- The reader takes as a string what is one. -/
theorem exists_string_iff :
    (∃ found, string text = .ok (found, rest)) ↔ ∃ body, Quotable body ∧ text = body ++ '"' :: rest := by
  constructor
  · rintro ⟨found, hfound⟩
    exact exists_quotable hfound
  · rintro ⟨body, hbody, rfl⟩
    exact hbody.read _ _ rest

/-! ### Numbers -/

/-- What may come behind a value: a gap, a comma, a bracket or the end of the text. -/
def Behind (rest : Text) : Prop :=
  ∀ c ∈ rest.head?, c ∈ [' ', '\t', '\n', '\r', ',', ']', '\x7d']

theorem digitRun_eq {digits : Text} (h : digitRun text = (digits, rest)) :
    text = digits ++ rest ∧ ∀ c ∈ digits, isDigit c = true := by
  rw [digitRun, List.span_eq_takeWhile_dropWhile, Prod.mk.injEq] at h
  obtain ⟨rfl, rfl⟩ := h
  exact ⟨List.takeWhile_append_dropWhile.symm, fun c hc => List.mem_takeWhile_imp hc⟩

theorem wholePart?_eq_some {whole : Text} (h : wholePart? text = some (whole, rest)) :
    text = whole ++ rest ∧ IsWhole whole := by
  unfold wholePart? at h
  split at h
  · obtain ⟨rfl, rfl⟩ := Prod.mk.inj (Option.some.inj h)
    exact ⟨rfl, ⟨by simp, by simp [isDigit]⟩, fun _ => rfl⟩
  · next hzero =>
    split at h
    · cases h
    · next hsome =>
      have hrun := Option.some.inj h
      obtain ⟨htext, hdigits⟩ := digitRun_eq hrun
      refine ⟨htext, ⟨?_, hdigits⟩, fun hhead => ?_⟩
      · rintro rfl
        exact hsome rest hrun
      · obtain ⟨more, rfl⟩ := List.head?_eq_some_iff.1 hhead
        exact absurd htext (hzero _)

theorem wholePart?_append {whole : Text} (h : IsWhole whole) (hrest : ∀ c ∈ rest.head?, isDigit c = false) :
    wholePart? (whole ++ rest) = some (whole, rest) := by
  obtain ⟨⟨hne, hdigits⟩, hzero⟩ := h
  have hrun := digitRun_append hdigits hrest
  obtain ⟨d, digits, rfl⟩ := List.exists_cons_of_ne_nil hne
  by_cases hd : d = '0'
  · subst hd
    rw [hzero rfl]
    rfl
  · rw [List.cons_append] at hrun ⊢
    rw [wholePart?, hrun]
    intro _ heq
    exact hd (List.cons.inj heq).1

theorem fractionPart_eq {found : Option Text} (h : fractionPart text = (found, rest)) :
    ∃ fraction, text = fraction ++ rest ∧ IsFraction fraction ∧ (found = none ↔ fraction = []) := by
  unfold fractionPart at h
  split at h
  · next more =>
    split at h
    · obtain ⟨rfl, rfl⟩ := Prod.mk.inj h
      exact ⟨[], rfl, .absent, by simp⟩
    · next digits after hsome hrun =>
      obtain ⟨rfl, rfl⟩ := Prod.mk.inj h
      obtain ⟨rfl, hdigits⟩ := digitRun_eq hrun
      exact ⟨'.' :: digits, rfl, .present ⟨hsome, hdigits⟩, by simp⟩
  · obtain ⟨rfl, rfl⟩ := Prod.mk.inj h
    exact ⟨[], rfl, .absent, by simp⟩

theorem fractionPart_append {fraction : Text} (h : IsFraction fraction)
    (hrest : ∀ c ∈ rest.head?, isDigit c = false ∧ c ≠ '.') :
    ∃ found, fractionPart (fraction ++ rest) = (found, rest) ∧ (found = none ↔ fraction = []) := by
  cases h with
  | absent =>
    refine ⟨none, ?_, by simp⟩
    rw [List.nil_append, fractionPart]
    rintro more rfl
    exact (hrest '.' rfl).2 rfl
  | @present digits hdigits =>
    have hrun := digitRun_append hdigits.2 fun c hc => (hrest c hc).1
    obtain ⟨d, more, rfl⟩ := List.exists_cons_of_ne_nil hdigits.1
    refine ⟨some (d :: more), ?_, by simp⟩
    rw [List.cons_append, fractionPart, hrun]

theorem powerPart_eq {found : Option Int} (h : powerPart text = (found, rest)) :
    ∃ power, text = power ++ rest ∧ IsPower power ∧ (found = none ↔ power = []) := by
  have hnone (text : Text) (h : (none, text) = (found, rest)) :
      ∃ power, text = power ++ rest ∧ IsPower power ∧ (found = none ↔ power = []) := by
    obtain ⟨rfl, rfl⟩ := Prod.mk.inj h
    exact ⟨[], rfl, .absent, by simp⟩
  unfold powerPart at h
  split at h
  · next e more =>
    split at h
    · next he =>
      simp only at h
      split at h
      · exact hnone _ h
      · next digits after hsome hrun =>
        obtain ⟨rfl, rfl⟩ := Prod.mk.inj h
        obtain ⟨hmore, hdigits⟩ := digitRun_eq hrun
        have hsign : ∃ sign ∈ [[], ['+'], ['-']], more = sign ++ (digits ++ after) := by
          rw [← hmore]
          split
          · exact ⟨['-'], by simp, rfl⟩
          · exact ⟨['+'], by simp, rfl⟩
          · exact ⟨[], by simp, rfl⟩
        obtain ⟨sign, hsign, rfl⟩ := hsign
        exact ⟨e :: (sign ++ digits), by simp, .present (by simpa using he) hsign ⟨hsome, hdigits⟩, by simp⟩
    · exact hnone _ h
  · exact hnone _ h

theorem powerPart_append {power : Text} (h : IsPower power)
    (hrest : ∀ c ∈ rest.head?, isDigit c = false ∧ c ≠ 'e' ∧ c ≠ 'E') :
    ∃ found, powerPart (power ++ rest) = (found, rest) ∧ (found = none ↔ power = []) := by
  cases h with
  | absent =>
    refine ⟨none, ?_, by simp⟩
    cases rest with
    | nil => rfl
    | cons c rest =>
      obtain ⟨-, hsmall, hcapital⟩ := hrest c rfl
      exact if_neg (by simp [hsmall, hcapital])
  | @present e sign digits he hsign hdigits =>
    have hrun := digitRun_append hdigits.2 fun c hc => (hrest c hc).1
    have he' : e = 'e' ∨ e = 'E' := by simpa using he
    obtain ⟨d, more, rfl⟩ := List.exists_cons_of_ne_nil hdigits.1
    have hd : isDigit d = true := hdigits.2 d List.mem_cons_self
    have hplain : d ≠ '-' ∧ d ≠ '+' := by constructor <;> rintro rfl <;> exact absurd hd (by decide)
    have hfound : ∃ n, powerPart (e :: (sign ++ (d :: more ++ rest))) = (some n, rest) := by
      simp only [List.mem_cons, List.not_mem_nil, or_false] at hsign
      rw [List.cons_append] at hrun ⊢
      rcases hsign with rfl | rfl | rfl
      · exact ⟨digitsValue (d :: more), by simp [powerPart, he', hplain, hrun]⟩
      · exact ⟨digitsValue (d :: more), by simp [powerPart, he', hrun]⟩
      · exact ⟨-digitsValue (d :: more), by simp [powerPart, he', hrun]⟩
    obtain ⟨n, hn⟩ := hfound
    exact ⟨some n, by simpa using hn, by simp⟩

theorem unsigned?_eq_ok {negative : Bool} {value : Value}
    (h : unsigned? negative text = some (.ok (value, rest))) :
    (∃ number, text = number ++ rest ∧ IsUnsigned number) ∧ ∀ members, value ≠ .object members := by
  unfold unsigned? at h
  cases hwhole : wholePart? text with
  | none => simp [hwhole] at h
  | some found =>
    obtain ⟨whole, behind⟩ := found
    cases hfraction : fractionPart behind with | mk fraction behind
    cases hpower : powerPart behind with | mk power behind
    simp only [hwhole, hfraction, hpower, Option.bind_eq_bind, Option.bind_some] at h
    obtain ⟨rfl, hisWhole⟩ := wholePart?_eq_some hwhole
    obtain ⟨fractionText, rfl, hisFraction, hnoFraction⟩ := fractionPart_eq hfraction
    obtain ⟨powerText, rfl, hisPower, hnoPower⟩ := powerPart_eq hpower
    have hunsigned (hsize : fractionText = [] → powerText = [] → whole.length ≤ 4300) :
        ∃ number, whole ++ (fractionText ++ (powerText ++ behind)) = number ++ behind ∧ IsUnsigned number :=
      ⟨_, by simp, .unsigned hisWhole hisFraction hisPower hsize⟩
    simp only [Option.isNone_iff_eq_none, hnoFraction, hnoPower] at h
    by_cases hplain : fractionText = [] ∧ powerText = []
    · rw [if_pos hplain] at h
      by_cases hlong : maxDigits < whole.length
      · rw [if_pos hlong] at h
        cases h
      · rw [if_neg hlong] at h
        obtain ⟨rfl, rfl⟩ := Prod.mk.inj (Except.ok.inj (Option.some.inj h))
        exact ⟨hunsigned fun _ _ => Nat.not_lt.1 hlong, by simp⟩
    · rw [if_neg hplain] at h
      obtain ⟨rfl, rfl⟩ := Prod.mk.inj (Except.ok.inj (Option.some.inj h))
      exact ⟨hunsigned fun hfraction hpower => (hplain ⟨hfraction, hpower⟩).elim, by simp⟩

theorem Behind.stops (h : Behind rest) :
    ∀ c ∈ rest.head?, isDigit c = false ∧ c ≠ '.' ∧ c ≠ 'e' ∧ c ≠ 'E' := by
  have hall : ∀ c ∈ [' ', '\t', '\n', '\r', ',', ']', '\x7d'],
      isDigit c = false ∧ c ≠ '.' ∧ c ≠ 'e' ∧ c ≠ 'E' := by simp [isDigit]
  exact fun c hc => hall c (h c hc)

theorem IsUnsigned.read {number : Text} (h : IsUnsigned number) (hrest : Behind rest) (negative : Bool) :
    ∃ value, unsigned? negative (number ++ rest) = some (.ok (value, rest)) := by
  obtain @⟨whole, fraction, power, hwhole, hfraction, hpower, hsize⟩ := h
  have hstops := hrest.stops
  have hbehindFraction : ∀ c ∈ (power ++ rest).head?, isDigit c = false ∧ c ≠ '.' := by
    intro c hc
    cases hpower with
    | absent => exact ⟨(hstops c hc).1, (hstops c hc).2.1⟩
    | @present e _ _ he _ =>
      obtain rfl : e = c := by simpa using hc
      have hall : ∀ e ∈ ['e', 'E'], isDigit e = false ∧ e ≠ '.' := by simp [isDigit]
      exact hall e he
  have hbehindWhole : ∀ c ∈ (fraction ++ (power ++ rest)).head?, isDigit c = false := by
    intro c hc
    cases hfraction with
    | absent => exact (hbehindFraction c hc).1
    | present =>
      obtain rfl : '.' = c := by simpa using hc
      rfl
  have hreadWhole := wholePart?_append hwhole hbehindWhole
  obtain ⟨foundFraction, hreadFraction, hnoFraction⟩ := fractionPart_append hfraction hbehindFraction
  obtain ⟨foundPower, hreadPower, hnoPower⟩ := powerPart_append hpower
    fun c hc => ⟨(hstops c hc).1, (hstops c hc).2.2⟩
  simp only [unsigned?, List.append_assoc, hreadWhole, hreadFraction, hreadPower, Option.bind_eq_bind,
    Option.bind_some, Option.isNone_iff_eq_none, hnoFraction, hnoPower]
  by_cases hplain : fraction = [] ∧ power = []
  · have hshort : ¬ maxDigits < whole.length := Nat.not_lt.2 (hsize hplain.1 hplain.2)
    rw [if_pos hplain, if_neg hshort]
    exact ⟨_, rfl⟩
  · rw [if_neg hplain]
    exact ⟨_, rfl⟩

/-! ### Values without parts -/

theorem IsUnsigned.begins {number : Text} (h : IsUnsigned number) :
    ∃ d more, number = d :: more ∧ isDigit d = true := by
  obtain ⟨⟨⟨hne, hdigits⟩, -⟩, -, -, -⟩ := h
  obtain ⟨d, more, rfl⟩ := List.exists_cons_of_ne_nil hne
  exact ⟨d, _, rfl, hdigits d List.mem_cons_self⟩

theorem scalar_eq_ok {value : Value} (h : scalar text = .ok (value, rest)) :
    (∃ written, text = written ++ rest ∧ IsScalar written) ∧ ∀ members, value ≠ .object members := by
  unfold scalar at h
  split at h
  · next found hfound =>
    obtain rfl := Except.ok.inj h
    obtain ⟨entry, hentry, hword⟩ := List.exists_of_findSome?_eq_some hfound
    obtain ⟨behind, hbehind, heq⟩ := Option.map_eq_some_iff.1 hword
    obtain ⟨rfl, rfl⟩ := Prod.mk.inj heq
    refine ⟨⟨entry.1, Text.after?_eq_some_iff.1 hbehind, ?_⟩, ?_⟩
    · simp only [words, List.mem_cons, List.not_mem_nil, or_false] at hentry
      rcases hentry with rfl | rfl | rfl | rfl | rfl | rfl <;> exact .word (by simp)
    · simp only [words, List.mem_cons, List.not_mem_nil, or_false] at hentry
      rcases hentry with rfl | rfl | rfl | rfl | rfl | rfl <;> simp
  · next hwords =>
    cases hnumber : number? text with
    | none => simp [hnumber, flawAt] at h
    | some found =>
      rw [hnumber] at h
      obtain rfl : found = .ok (value, rest) := h
      unfold number? at hnumber
      split at hnumber
      · obtain ⟨⟨number, rfl, hunsigned⟩, hvalue⟩ := unsigned?_eq_ok hnumber
        exact ⟨⟨_, rfl, .number (.negative hunsigned)⟩, hvalue⟩
      · obtain ⟨⟨number, rfl, hunsigned⟩, hvalue⟩ := unsigned?_eq_ok hnumber
        exact ⟨⟨_, rfl, .number (.positive hunsigned)⟩, hvalue⟩

theorem IsScalar.read {written : Text} (h : IsScalar written) (hrest : Behind rest) :
    ∃ value, scalar (written ++ rest) = .ok (value, rest) := by
  cases h with
  | word hword =>
    simp only [List.mem_cons, List.not_mem_nil, or_false] at hword
    rcases hword with rfl | rfl | rfl | rfl | rfl | rfl <;> exact ⟨_, rfl⟩
  | number hnumber =>
    cases hnumber with
    | positive hunsigned =>
      obtain ⟨value, hvalue⟩ := hunsigned.read hrest false
      obtain ⟨d, more, rfl, hd⟩ := hunsigned.begins
      have hwords := after?_words_eq_none hd (more ++ rest)
      have hnumber := (number?_of_isDigit hd (more ++ rest)).trans hvalue
      exact ⟨value, scalar_of_number (fun entry hentry => (hwords entry hentry).1) hnumber⟩
    | negative hunsigned =>
      obtain ⟨value, hvalue⟩ := hunsigned.read hrest true
      obtain ⟨d, more, rfl, hd⟩ := hunsigned.begins
      have hwords := after?_words_eq_none hd (more ++ rest)
      exact ⟨value, scalar_of_number (fun entry hentry => (hwords entry hentry).2) hvalue⟩

end Document

end Stencil
