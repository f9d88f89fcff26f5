import Stencil.Proofs.Document.Scalar

/-!
The reader takes the documents of the grammar and no others (`exists_read_object_iff`).

In one direction every part that the reader gets over is a part of the grammar, by induction on its fuel (`reads`). In
the other the reader gets over every part of the grammar, by induction on the part (`Is.readable`). It needs fuel for
that, and twice the length of the part is enough: a list or an object takes one step for itself and one for its first
item, and has two brackets to pay for them.
-/

namespace Stencil

section

variable {ε α β : Type} {result : Except ε α}

theorem exists_of_map_eq_ok {f : α → β} {b : β} (h : result.map f = .ok b) : ∃ a, result = .ok a ∧ f a = b := by
  cases result with
  | error error => cases h
  | ok a => exact ⟨a, rfl, Except.ok.inj h⟩

theorem exists_of_bind_eq_ok {f : α → Except ε β} {b : β} (h : result >>= f = .ok b) :
    ∃ a, result = .ok a ∧ f a = .ok b := by
  cases result with
  | error error => cases h
  | ok a => exact ⟨a, rfl, h⟩

end

namespace Document

variable {text rest : Text}

/-! ### What the reader takes -/

theorem exists_gap (text : Text) : ∃ gap, text = gap ++ skipGap text ∧ IsWidth gap :=
  ⟨text.takeWhile isGap, List.takeWhile_append_dropWhile.symm,
    fun _ hc => isGap_iff.1 (List.mem_takeWhile_imp hc)⟩

def Takes (part : Part) (text rest : Text) : Prop :=
  ∃ taken, text = taken ++ rest ∧ Is part taken

def TakesUpTo (part : Part) (close : Char) (text rest : Text) : Prop :=
  ∃ taken gap, text = taken ++ (gap ++ close :: rest) ∧ Is part taken ∧ IsWidth gap

def ReadsValues (fuel : Nat) : Prop :=
  ∀ {text rest : Text} {value : Value}, valueFrom fuel text = .ok (value, rest) →
    Takes .value text rest ∧ ∀ members, value = .object members → Takes .object text rest

def ReadsItems (fuel : Nat) : Prop :=
  ∀ {text rest : Text} {items : List Value}, itemsFrom fuel text = .ok (items, rest) →
    TakesUpTo .items ']' text rest

def ReadsMembers (fuel : Nat) : Prop :=
  ∀ {text rest : Text} {members : List (Str × Value)}, membersFrom fuel text = .ok (members, rest) →
    TakesUpTo .members '\x7d' text rest

theorem Takes.ofObject (h : Takes .object text rest) : Takes .value text rest := by
  obtain ⟨taken, rfl, htaken⟩ := h
  exact ⟨taken, rfl, .object htaken⟩

theorem readsValues_succ {fuel : Nat} (hitems : ReadsItems fuel) (hmembers : ReadsMembers fuel) :
    ReadsValues (fuel + 1) := by
  intro text rest value h
  unfold valueFrom at h
  split at h
  · next hzero => cases hzero
  · next behind _ =>
    obtain ⟨⟨found, after⟩, hstring, heq⟩ := exists_of_map_eq_ok h
    obtain ⟨rfl, rfl⟩ := Prod.mk.inj heq
    obtain ⟨body, hbody, rfl⟩ := exists_quotable hstring
    exact ⟨⟨_, by simp, .string ⟨body, hbody, rfl⟩⟩, by cases found <;> simp [Value.ofStr]⟩
  · next fuel' behind hfuel =>
    obtain rfl := Nat.succ.inj hfuel
    obtain ⟨gap, hbehind, hgap⟩ := exists_gap behind
    split at h
    · next after hafter =>
      obtain ⟨rfl, rfl⟩ := Prod.mk.inj (Except.ok.inj h)
      rw [hafter] at hbehind
      exact ⟨⟨_, by simp [hbehind], .emptyList hgap⟩, by simp⟩
    · obtain ⟨⟨items, after⟩, hread, heq⟩ := exists_of_map_eq_ok h
      obtain ⟨rfl, rfl⟩ := Prod.mk.inj heq
      obtain ⟨taken, space, htaken, his, hspace⟩ := hitems hread
      rw [htaken] at hbehind
      exact ⟨⟨_, by simp [hbehind], .list hgap his hspace⟩, by simp⟩
  · next fuel' behind hfuel =>
    obtain rfl := Nat.succ.inj hfuel
    obtain ⟨gap, hbehind, hgap⟩ := exists_gap behind
    have hobject : Takes .object ('\x7b' :: behind) rest := by
      split at h
      · next after hafter =>
        obtain ⟨-, rfl⟩ := Prod.mk.inj (Except.ok.inj h)
        rw [hafter] at hbehind
        exact ⟨_, by simp [hbehind], .emptyObject hgap⟩
      · obtain ⟨⟨members, after⟩, hread, heq⟩ := exists_of_map_eq_ok h
        obtain ⟨-, rfl⟩ := Prod.mk.inj heq
        obtain ⟨taken, space, htaken, his, hspace⟩ := hmembers hread
        rw [htaken] at hbehind
        exact ⟨_, by simp [hbehind], .fullObject hgap his hspace⟩
    exact ⟨hobject.ofObject, fun _ _ => hobject⟩
  · obtain ⟨⟨written, rfl, hwritten⟩, hvalue⟩ := scalar_eq_ok h
    exact ⟨⟨written, rfl, .scalar hwritten⟩, fun members hmembers => absurd hmembers (hvalue members)⟩

theorem readsItems_succ {fuel : Nat} (hvalues : ReadsValues fuel) (hitems : ReadsItems fuel) :
    ReadsItems (fuel + 1) := by
  intro text rest items h
  unfold itemsFrom at h
  obtain ⟨⟨item, behind⟩, hitem, hmore⟩ := exists_of_bind_eq_ok h
  obtain ⟨taken, rfl, his⟩ := (hvalues hitem).1
  obtain ⟨gap, hbehind, hgap⟩ := exists_gap behind
  simp only at hmore
  split at hmore
  · next after hafter =>
    obtain ⟨-, rfl⟩ := Prod.mk.inj (Except.ok.inj hmore)
    rw [hafter] at hbehind
    exact ⟨taken, gap, by rw [hbehind], .item his, hgap⟩
  · next after hafter =>
    obtain ⟨⟨others, _⟩, hothers, hend⟩ := exists_of_bind_eq_ok hmore
    obtain ⟨-, rfl⟩ := Prod.mk.inj (Except.ok.inj hend)
    obtain ⟨takenOthers, space, htaken, hisOthers, hspace⟩ := hitems hothers
    obtain ⟨width, hwidth, hisWidth⟩ := exists_gap after
    rw [hafter] at hbehind
    rw [htaken] at hwidth
    exact ⟨_, space, by simp [hbehind, hwidth], .moreItems his hgap hisWidth hisOthers, hspace⟩
  · simp [flawAt] at hmore

theorem readsMembers_succ {fuel : Nat} (hvalues : ReadsValues fuel) (hmembers : ReadsMembers fuel) :
    ReadsMembers (fuel + 1) := by
  intro text rest members h
  unfold membersFrom at h
  split at h
  · next hzero => cases hzero
  · next fuel' behind hfuel =>
    obtain rfl := Nat.succ.inj hfuel
    obtain ⟨⟨name, afterName⟩, hname, hmore⟩ := exists_of_bind_eq_ok h
    obtain ⟨body, hbody, rfl⟩ := exists_quotable hname
    have hisName : IsString ('"' :: (body ++ ['"'])) := ⟨body, hbody, rfl⟩
    obtain ⟨before, hafterName, hbefore⟩ := exists_gap afterName
    simp only at hmore
    split at hmore
    · next afterColon hcolon =>
      obtain ⟨⟨value, afterValue⟩, hvalue, hlast⟩ := exists_of_bind_eq_ok hmore
      obtain ⟨written, hafterColon, hwritten⟩ := (hvalues hvalue).1
      obtain ⟨between, hbetween, hisBetween⟩ := exists_gap afterColon
      obtain ⟨gap, hafterValue, hgap⟩ := exists_gap afterValue
      have hmember := Is.member hisName hbefore hisBetween hwritten
      rw [hcolon] at hafterName
      rw [hafterColon] at hbetween
      simp only at hlast
      split at hlast
      · next after hafter =>
        obtain ⟨-, rfl⟩ := Prod.mk.inj (Except.ok.inj hlast)
        rw [hafter] at hafterValue
        exact ⟨_, gap, by simp [hafterName, hbetween, hafterValue], .lastMember hmember, hgap⟩
      · next after hafter =>
        obtain ⟨⟨others, _⟩, hothers, hend⟩ := exists_of_bind_eq_ok hlast
        obtain ⟨-, rfl⟩ := Prod.mk.inj (Except.ok.inj hend)
        obtain ⟨takenOthers, space, htaken, hisOthers, hspace⟩ := hmembers hothers
        obtain ⟨width, hwidth, hisWidth⟩ := exists_gap after
        rw [hafter] at hafterValue
        rw [htaken] at hwidth
        exact ⟨_, space, by simp [hafterName, hbetween, hafterValue, hwidth],
          .moreMembers hmember hgap hisWidth hisOthers, hspace⟩
      · simp [flawAt] at hlast
    · simp [flawAt] at hmore
  · simp [flawAt] at h

/-- Whatever the reader takes is in the grammar. -/
theorem reads (fuel : Nat) : ReadsValues fuel ∧ ReadsItems fuel ∧ ReadsMembers fuel := by
  induction fuel with
  | zero =>
    refine ⟨fun h => ?_, fun h => ?_, fun h => ?_⟩
    · simp [valueFrom, flawAt] at h
    · simp [itemsFrom, flawAt] at h
    · simp [membersFrom, flawAt] at h
  | succ fuel ih =>
    obtain ⟨hvalues, hitems, hmembers⟩ := ih
    exact ⟨readsValues_succ hitems hmembers, readsItems_succ hvalues hitems,
      readsMembers_succ hvalues hmembers⟩

/-! ### What the grammar has -/

theorem skipGap_of_begins {gap : Text} (hgap : IsWidth gap) {c : Char} (hc : c ∉ [' ', '\t', '\n', '\r'])
    (rest : Text) : skipGap (gap ++ c :: rest) = c :: rest := by
  rw [hgap.skipGap_append, skipGap, List.dropWhile_cons_of_neg (mt isGap_iff.1 hc)]

theorem behind_gap {gap : Text} (hgap : IsWidth gap) {c : Char} (hc : c ∈ [',', ']', '\x7d']) (rest : Text) :
    Behind (gap ++ c :: rest) := by
  intro d hd
  cases gap with
  | nil =>
    obtain rfl : c = d := by simpa using hd
    have hall : ∀ c ∈ [',', ']', '\x7d'], c ∈ [' ', '\t', '\n', '\r', ',', ']', '\x7d'] := by simp
    exact hall c hc
  | cons first gap =>
    obtain rfl : first = d := by simpa using hd
    have hall : ∀ c ∈ [' ', '\t', '\n', '\r'], c ∈ [' ', '\t', '\n', '\r', ',', ']', '\x7d'] := by simp
    exact hall first (hgap first List.mem_cons_self)

theorem IsScalar.begins {written : Text} (h : IsScalar written) :
    ∃ c more, written = c :: more ∧ c ∉ ['"', '[', '\x7b', ' ', '\t', '\n', '\r', ']', '\x7d'] := by
  cases h with
  | word hword =>
    simp only [List.mem_cons, List.not_mem_nil, or_false] at hword
    rcases hword with rfl | rfl | rfl | rfl | rfl | rfl <;> exact ⟨_, _, rfl, by decide⟩
  | number hnumber =>
    cases hnumber with
    | positive hunsigned =>
      obtain ⟨d, more, rfl, hd⟩ := hunsigned.begins
      exact ⟨d, more, rfl, notMem_of_isDigit hd (by simp [isDigit])⟩
    | negative => exact ⟨'-', _, rfl, by decide⟩

theorem Is.begins {part : Part} (h : Is part text) :
    ∃ c more, text = c :: more ∧ c ∉ [' ', '\t', '\n', '\r', ']', '\x7d'] := by
  have happend {part rest : Text} : (∃ c more, part = c :: more ∧ c ∉ [' ', '\t', '\n', '\r', ']', '\x7d']) →
      ∃ c more, part ++ rest = c :: more ∧ c ∉ [' ', '\t', '\n', '\r', ']', '\x7d'] := by
    rintro ⟨c, more, rfl, hc⟩
    exact ⟨c, more ++ rest, rfl, hc⟩
  induction h with
  | scalar hscalar =>
    obtain ⟨c, more, rfl, hc⟩ := hscalar.begins
    exact ⟨c, more, rfl, fun hmem => hc (by simp_all)⟩
  | string hstring =>
    obtain ⟨body, -, rfl⟩ := hstring
    exact ⟨'"', _, rfl, by decide⟩
  | emptyList | list => exact ⟨'[', _, rfl, by decide⟩
  | emptyObject | fullObject => exact ⟨'\x7b', _, rfl, by decide⟩
  | object _ ih | item _ ih | lastMember _ ih => exact ih
  | moreItems _ _ _ _ ih | moreMembers _ _ _ _ ih => exact happend ih
  | member hname =>
    obtain ⟨body, -, rfl⟩ := hname
    exact ⟨'"', _, rfl, by decide⟩

theorem Is.skipGap_append {part : Part} (h : Is part text) {gap : Text} (hgap : IsWidth gap) (rest : Text) :
    skipGap (gap ++ (text ++ rest)) = text ++ rest := by
  obtain ⟨c, more, rfl, hc⟩ := h.begins
  exact skipGap_of_begins hgap (fun hmem => hc (by simp_all)) _

/-- The reader gets over a part with enough fuel for it, if nothing comes behind it that could belong to it. For
items and members that is what closes them. -/
def Readable : Part → Text → Prop
  | .value, text => ∀ fuel rest, 2 * text.length ≤ fuel → Behind rest →
      ∃ value, valueFrom fuel (text ++ rest) = .ok (value, rest)
  | .object, text => ∀ fuel rest, 2 * text.length ≤ fuel →
      ∃ members, valueFrom fuel (text ++ rest) = .ok (.object members, rest)
  | .items, text => ∀ fuel gap rest, 2 * text.length + 1 ≤ fuel → IsWidth gap →
      ∃ items, itemsFrom fuel (text ++ (gap ++ ']' :: rest)) = .ok (items, rest)
  | .member, text => ∀ fuel gap rest, 2 * text.length ≤ fuel → IsWidth gap →
      (∃ member, membersFrom (fuel + 1) (text ++ (gap ++ '\x7d' :: rest)) = .ok ([member], rest)) ∧
      ∃ member, membersFrom (fuel + 1) (text ++ (gap ++ ',' :: rest)) =
        (membersFrom fuel (skipGap rest)).map fun (members, rest) => (member :: members, rest)
  | .members, text => ∀ fuel gap rest, 2 * text.length + 1 ≤ fuel → IsWidth gap →
      ∃ members, membersFrom fuel (text ++ (gap ++ '\x7d' :: rest)) = .ok (members, rest)

theorem readable_scalar (h : IsScalar text) : Readable .value text := by
  intro fuel rest hfuel hrest
  obtain ⟨value, hvalue⟩ := h.read hrest
  obtain ⟨c, more, rfl, hc⟩ := h.begins
  obtain ⟨fuel, rfl⟩ := Nat.exists_eq_add_of_le' (show 1 ≤ fuel by simp at hfuel; omega)
  refine ⟨value, ?_⟩
  rw [List.cons_append, valueFrom_eq_scalar (fun hmem => hc (by simp_all))]
  exact hvalue

theorem readable_string (h : IsString text) : Readable .value text := by
  intro fuel rest hfuel hrest
  obtain ⟨body, hbody, rfl⟩ := h
  obtain ⟨fuel, rfl⟩ := Nat.exists_eq_add_of_le' (show 1 ≤ fuel by simp at hfuel; omega)
  obtain ⟨found, hfound⟩ : ∃ found, string (body ++ '"' :: rest) = .ok (found, rest) :=
    exists_string_iff.2 ⟨body, hbody, rfl⟩
  refine ⟨.ofStr found, ?_⟩
  simp [valueFrom, hfound, Except.map]

theorem readable_list {gap items after : Text} (hgap : IsWidth gap) (his : Is .items items)
    (hafter : IsWidth after) (h : Readable .items items) :
    Readable .value ('[' :: (gap ++ (items ++ (after ++ [']'])))) := by
  intro fuel rest hfuel hrest
  simp only [List.length_cons, List.length_append, List.length_nil] at hfuel
  obtain ⟨fuel, rfl⟩ := Nat.exists_eq_add_of_le' (show 1 ≤ fuel by omega)
  obtain ⟨found, hfound⟩ := h fuel after rest (by omega) hafter
  have hskip := his.skipGap_append hgap (after ++ ']' :: rest)
  obtain ⟨c, more, rfl, hc⟩ := his.begins
  simp only [List.cons_append, List.append_assoc, List.nil_append, valueFrom] at hskip hfound ⊢
  rw [hskip]
  split
  · next hclose =>
    obtain rfl : c = ']' := (List.cons.inj hclose).1
    exact absurd hc (by decide)
  · exact ⟨.list found, by rw [hfound]; rfl⟩

theorem readable_object {gap members after : Text} (hgap : IsWidth gap) (his : Is .members members)
    (hafter : IsWidth after) (h : Readable .members members) :
    Readable .object ('\x7b' :: (gap ++ (members ++ (after ++ ['\x7d'])))) := by
  intro fuel rest hfuel
  simp only [List.length_cons, List.length_append, List.length_nil] at hfuel
  obtain ⟨fuel, rfl⟩ := Nat.exists_eq_add_of_le' (show 1 ≤ fuel by omega)
  obtain ⟨found, hfound⟩ := h fuel after rest (by omega) hafter
  have hskip := his.skipGap_append hgap (after ++ '\x7d' :: rest)
  obtain ⟨c, more, rfl, hc⟩ := his.begins
  simp only [List.cons_append, List.append_assoc, List.nil_append, valueFrom] at hskip hfound ⊢
  rw [hskip]
  split
  · next hclose =>
    obtain rfl : c = '\x7d' := (List.cons.inj hclose).1
    exact absurd hc (by decide)
  · exact ⟨Mapping.ofPairs found, by rw [hfound]; rfl⟩

theorem readable_item (h : Readable .value text) : Readable .items text := by
  intro fuel gap rest hfuel hgap
  obtain ⟨fuel, rfl⟩ := Nat.exists_eq_add_of_le' (show 1 ≤ fuel by omega)
  obtain ⟨item, hitem⟩ := h fuel (gap ++ ']' :: rest) (by omega) (behind_gap hgap (by decide) rest)
  have hclose : skipGap (gap ++ ']' :: rest) = ']' :: rest := skipGap_of_begins hgap (by decide) rest
  refine ⟨[item], ?_⟩
  simp only [itemsFrom, hitem, bind, Except.bind, hclose]
  rfl

theorem readable_moreItems {item before after items : Text} (hbefore : IsWidth before) (hafter : IsWidth after)
    (his : Is .items items) (hitem : Readable .value item) (hitems : Readable .items items) :
    Readable .items (item ++ (before ++ ',' :: (after ++ items))) := by
  intro fuel gap rest hfuel hgap
  simp only [List.length_cons, List.length_append] at hfuel
  obtain ⟨fuel, rfl⟩ := Nat.exists_eq_add_of_le' (show 1 ≤ fuel by omega)
  obtain ⟨first, hfirst⟩ := hitem fuel (before ++ ',' :: (after ++ (items ++ (gap ++ ']' :: rest)))) (by omega)
    (behind_gap hbefore (by decide) _)
  obtain ⟨others, hothers⟩ := hitems fuel gap rest (by omega) hgap
  have hcomma : skipGap (before ++ ',' :: (after ++ (items ++ (gap ++ ']' :: rest)))) =
      ',' :: (after ++ (items ++ (gap ++ ']' :: rest))) := skipGap_of_begins hbefore (by decide) _
  have hskip := his.skipGap_append hafter (gap ++ ']' :: rest)
  refine ⟨first :: others, ?_⟩
  simp only [List.append_assoc, List.cons_append, itemsFrom, hfirst, bind, Except.bind, hcomma, hskip, hothers]
  rfl

theorem readable_member {name before after value : Text} (hname : IsString name) (hbefore : IsWidth before)
    (hafter : IsWidth after) (his : Is .value value) (h : Readable .value value) :
    Readable .member (name ++ (before ++ ':' :: (after ++ value))) := by
  intro fuel gap rest hfuel hgap
  obtain ⟨body, hbody, rfl⟩ := hname
  simp only [List.length_cons, List.length_append] at hfuel
  -- What closes the member may be a comma or a brace; up to there it is read in the same way.
  have hread {c : Char} (hc : c ∈ [',', ']', '\x7d']) : ∃ name found,
      string (body ++ '"' :: (before ++ ':' :: (after ++ (value ++ (gap ++ c :: rest))))) =
        .ok (name, before ++ ':' :: (after ++ (value ++ (gap ++ c :: rest)))) ∧
      valueFrom fuel (value ++ (gap ++ c :: rest)) = .ok (found, gap ++ c :: rest) := by
    obtain ⟨name, hname⟩ := exists_string_iff.2 ⟨body, hbody, rfl⟩
    obtain ⟨found, hfound⟩ := h fuel (gap ++ c :: rest) (by omega) (behind_gap hgap hc rest)
    exact ⟨name, found, hname, hfound⟩
  have hcolon (more : Text) : skipGap (before ++ ':' :: more) = ':' :: more :=
    skipGap_of_begins hbefore (by decide) more
  have hvalue (more : Text) : skipGap (after ++ (value ++ more)) = value ++ more := his.skipGap_append hafter more
  constructor
  · obtain ⟨name, found, hname, hfound⟩ := hread (c := '\x7d') (by decide)
    have hclose : skipGap (gap ++ '\x7d' :: rest) = '\x7d' :: rest := skipGap_of_begins hgap (by decide) rest
    refine ⟨(name, found), ?_⟩
    simp only [List.append_assoc, List.cons_append, List.nil_append, membersFrom, hname, bind, Except.bind,
      hcolon, hvalue, hfound, hclose]
    rfl
  · obtain ⟨name, found, hname, hfound⟩ := hread (c := ',') (by decide)
    have hcomma : skipGap (gap ++ ',' :: rest) = ',' :: rest := skipGap_of_begins hgap (by decide) rest
    refine ⟨(name, found), ?_⟩
    simp only [List.append_assoc, List.cons_append, List.nil_append, membersFrom, hname, bind, Except.bind,
      hcolon, hvalue, hfound, hcomma]
    cases membersFrom fuel (skipGap rest) <;> rfl

theorem readable_lastMember (h : Readable .member text) : Readable .members text := by
  intro fuel gap rest hfuel hgap
  obtain ⟨fuel, rfl⟩ := Nat.exists_eq_add_of_le' (show 1 ≤ fuel by omega)
  obtain ⟨member, hmember⟩ := (h fuel gap rest (by omega) hgap).1
  exact ⟨[member], hmember⟩

theorem readable_moreMembers {member before after members : Text} (hbefore : IsWidth before)
    (hafter : IsWidth after) (his : Is .members members) (hmember : Readable .member member)
    (hmembers : Readable .members members) :
    Readable .members (member ++ (before ++ ',' :: (after ++ members))) := by
  intro fuel gap rest hfuel hgap
  simp only [List.length_cons, List.length_append] at hfuel
  obtain ⟨fuel, rfl⟩ := Nat.exists_eq_add_of_le' (show 1 ≤ fuel by omega)
  obtain ⟨first, hfirst⟩ := (hmember fuel before (after ++ (members ++ (gap ++ '\x7d' :: rest))) (by omega) hbefore).2
  obtain ⟨others, hothers⟩ := hmembers fuel gap rest (by omega) hgap
  refine ⟨first :: others, ?_⟩
  rw [his.skipGap_append hafter, hothers] at hfirst
  simp only [List.append_assoc, List.cons_append, hfirst]
  rfl

theorem Is.readable {part : Part} (h : Is part text) : Readable part text := by
  induction h with
  | scalar hscalar => exact readable_scalar hscalar
  | string hstring => exact readable_string hstring
  | @emptyList gap hgap =>
    intro fuel rest hfuel _
    obtain ⟨fuel, rfl⟩ := Nat.exists_eq_add_of_le' (show 1 ≤ fuel by simp at hfuel; omega)
    have hclose : skipGap (gap ++ ']' :: rest) = ']' :: rest := skipGap_of_begins hgap (by decide) rest
    exact ⟨.list [], by simp [valueFrom, hclose]⟩
  | list hgap his hafter ih => exact readable_list hgap his hafter ih
  | object _ ih =>
    intro fuel rest hfuel _
    obtain ⟨members, hmembers⟩ := ih fuel rest hfuel
    exact ⟨.object members, hmembers⟩
  | @emptyObject gap hgap =>
    intro fuel rest hfuel
    obtain ⟨fuel, rfl⟩ := Nat.exists_eq_add_of_le' (show 1 ≤ fuel by simp at hfuel; omega)
    have hclose : skipGap (gap ++ '\x7d' :: rest) = '\x7d' :: rest := skipGap_of_begins hgap (by decide) rest
    exact ⟨[], by simp [valueFrom, hclose]⟩
  | fullObject hgap his hafter ih => exact readable_object hgap his hafter ih
  | item _ ih => exact readable_item ih
  | moreItems _ hbefore hafter his ihItem ihItems => exact readable_moreItems hbefore hafter his ihItem ihItems
  | member hname hbefore hafter his ih => exact readable_member hname hbefore hafter his ih
  | lastMember _ ih => exact readable_lastMember ih
  | moreMembers _ hbefore hafter his ihMember ihMembers =>
    exact readable_moreMembers hbefore hafter his ihMember ihMembers

/-! ### Documents -/

theorem Is.head_of_object (h : Is .object text) : ∃ rest, text = '\x7b' :: rest := by
  cases h with
  | emptyObject | fullObject => exact ⟨_, rfl⟩

/-- The reader takes as an object exactly the documents that hold one. -/
theorem exists_read_object_iff :
    (∃ members, read text = .ok (.object members)) ↔ IsObjectDocument text := by
  constructor
  · rintro ⟨members, hread⟩
    unfold read at hread
    split at hread
    · simp [flawAt, bind, Except.bind] at hread
    · obtain ⟨⟨value, rest⟩, hvalue, hend⟩ := exists_of_bind_eq_ok hread
      simp only at hend
      split at hend
      · next hnothing =>
        obtain rfl := Except.ok.inj hend
        obtain ⟨object, hobject, his⟩ := ((reads _).1 hvalue).2 members rfl
        obtain ⟨before, hbefore, hgap⟩ := exists_gap text
        obtain ⟨after, hafter, hgapAfter⟩ := exists_gap rest
        rw [hnothing, List.append_nil] at hafter
        subst hafter
        exact ⟨before, object, rest, by rw [← hobject, ← hbefore], hgap, his, hgapAfter⟩
      · simp [flawAt] at hend
  · rintro ⟨before, object, after, rfl, hbefore, hobject, hafter⟩
    have hskip := hobject.skipGap_append hbefore after
    obtain ⟨members, hmembers⟩ := hobject.readable (fuelFor (before ++ (object ++ after))) after
      (by simp only [fuelFor, List.length_append]; omega)
    have hend : skipGap after = [] := List.dropWhile_eq_nil_iff.2 fun c hc => isGap_iff.2 (hafter c hc)
    obtain ⟨inside, rfl⟩ := hobject.head_of_object
    have hmark : (before ++ ('\x7b' :: inside ++ after)).head? ≠ some '\ufeff' := by
      cases before with
      | nil => simp
      | cons first before =>
        have hfirst := hbefore first List.mem_cons_self
        rintro hhead
        obtain rfl : first = '\ufeff' := by simpa using hhead
        exact absurd hfirst (by decide)
    refine ⟨members, ?_⟩
    simp only [read, if_neg hmark, hskip, hmembers, hend, bind, Except.bind]
    rfl

end Document

end Stencil
