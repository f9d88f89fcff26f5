import Stencil.Mapping

/-!
What operations on mappings do to the entries that are found in them. Two mappings in which the same is found
under every key answer alike wherever a mapping is asked, whatever the order of their entries.
-/

namespace Stencil.Mapping

variable {α : Type}

/-- The entries of two mappings, those of the first where both have one under a key. -/
def union (first second : Mapping α) : Mapping α :=
  first ++ second.filter fun (key, _) => !first.has key

theorem mem_of_get? {entries : Mapping α} {key : Text} {value : α}
    (h : entries.get? key = some value) : (key, value) ∈ entries := by
  induction entries with
  | nil => simp at h
  | cons entry entries ih =>
    obtain ⟨k, a⟩ := entry
    rw [get?] at h
    split at h
    · next hk =>
      rw [← hk, ← Option.some.inj h]
      exact List.mem_cons_self
    · exact List.mem_cons_of_mem _ (ih h)

theorem get?_append (first second : Mapping α) (key : Text) :
    get? key (first ++ second) = (first.get? key).or (second.get? key) := by
  induction first with
  | nil => simp
  | cons entry first ih =>
    obtain ⟨k, a⟩ := entry
    by_cases hk : k = key <;> simp [get?, hk, ih]

theorem get?_filter (keeps : Text → Bool) (entries : Mapping α) (key : Text) :
    get? key (entries.filter fun (k, _) => keeps k) = if keeps key then entries.get? key else none := by
  induction entries with
  | nil => simp
  | cons entry entries ih =>
    obtain ⟨k, a⟩ := entry
    by_cases hk : k = key
    · subst hk
      cases hkeeps : keeps k <;> simp [get?, hkeeps, ih]
    · cases hkeeps : keeps k <;> simp [get?, hkeeps, hk, ih]

theorem get?_union (first second : Mapping α) (key : Text) :
    get? key (union first second) = (first.get? key).or (second.get? key) := by
  have hrest : get? key (second.filter fun (k, _) => !first.has k) =
      if !first.has key then second.get? key else none :=
    get?_filter (fun k => !first.has k) second key
  rw [union, get?_append, hrest]
  cases h : first.get? key <;> simp [has, h]

theorem get?_union_comm {first second : Mapping α}
    (h : ∀ key, first.has key = true → second.has key = false) (key : Text) :
    get? key (union second first) = get? key (union first second) := by
  have hkey := h key
  rw [get?_union, get?_union]
  cases hfirst : first.get? key <;> cases hsecond : second.get? key <;>
    simp [has, hfirst, hsecond] at hkey ⊢

theorem get?_map {β : Type} (f : α → β) (entries : Mapping α) (key : Text) :
    get? key (entries.map fun (k, a) => (k, f a)) = (entries.get? key).map f := by
  induction entries with
  | nil => rfl
  | cons entry entries ih =>
    obtain ⟨k, a⟩ := entry
    by_cases hk : k = key <;> simp [get?, hk, ih]

/-! ### Lists of pairs -/

theorem get?_insertAll (pairs : List (Text × α)) (entries : Mapping α) (key : Text) :
    get? key (insertAll pairs entries) = (get? key pairs.reverse).or (entries.get? key) := by
  induction pairs generalizing entries with
  | nil => rfl
  | cons pair pairs ih =>
    obtain ⟨k, a⟩ := pair
    have hstep : insertAll ((k, a) :: pairs) entries = insertAll pairs (entries.insert k a) := rfl
    rw [hstep, ih, get?_insert, List.reverse_cons, get?_append, Option.or_assoc]
    by_cases hk : k = key <;> simp [get?, hk]

theorem get?_ofPairs (pairs : List (Text × α)) (key : Text) :
    get? key (ofPairs pairs) = get? key pairs.reverse := by
  rw [ofPairs, get?_insertAll]
  simp

theorem get?_eq_some_iff {entries : Mapping α} (h : (entries.map Prod.fst).Nodup) {key : Text}
    {value : α} : entries.get? key = some value ↔ (key, value) ∈ entries := by
  refine ⟨mem_of_get?, fun hmem => ?_⟩
  induction entries with
  | nil => simp at hmem
  | cons entry entries ih =>
    obtain ⟨k, a⟩ := entry
    rw [List.map_cons, List.nodup_cons] at h
    rw [get?]
    rcases List.mem_cons.1 hmem with heq | hrest
    · obtain ⟨rfl, rfl⟩ := Prod.mk.inj heq
      rw [if_pos rfl]
    · have hkey : key ∈ entries.map Prod.fst := List.mem_map.2 ⟨_, hrest, rfl⟩
      have hk : k ≠ key := by
        rintro rfl
        exact h.1 hkey
      rw [if_neg hk]
      exact ih h.2 hrest

theorem get?_perm {entries others : Mapping α} (hperm : others.Perm entries)
    (h : (entries.map Prod.fst).Nodup) (key : Text) : others.get? key = entries.get? key := by
  have hothers : (others.map Prod.fst).Nodup := (hperm.map Prod.fst).nodup_iff.2 h
  refine Option.ext fun value => ?_
  rw [get?_eq_some_iff hothers, get?_eq_some_iff h, hperm.mem_iff]

theorem mem_keys_insert {entries : Mapping α} {key other : Text} {value : α}
    (h : other ∈ (insert key value entries).map Prod.fst) :
    other = key ∨ other ∈ entries.map Prod.fst := by
  induction entries with
  | nil => simpa [insert] using h
  | cons entry entries ih =>
    obtain ⟨k, a⟩ := entry
    by_cases hk : k = key
    · rw [insert, if_pos hk] at h
      exact .inr h
    · rw [insert, if_neg hk] at h
      rcases List.mem_cons.1 h with rfl | hrest
      · exact .inr List.mem_cons_self
      · exact (ih hrest).imp_right (List.mem_cons_of_mem _)

theorem nodup_keys_insert {entries : Mapping α} (h : (entries.map Prod.fst).Nodup) (key : Text)
    (value : α) : ((insert key value entries).map Prod.fst).Nodup := by
  induction entries with
  | nil => simp [insert]
  | cons entry entries ih =>
    obtain ⟨k, a⟩ := entry
    by_cases hk : k = key
    · rw [insert, if_pos hk]
      exact h
    · rw [List.map_cons, List.nodup_cons] at h
      rw [insert, if_neg hk, List.map_cons, List.nodup_cons]
      refine ⟨fun hmem => ?_, ih h.2⟩
      rcases mem_keys_insert hmem with heq | hrest
      · exact hk heq
      · exact h.1 hrest

theorem nodup_keys_ofPairs (pairs : List (Text × α)) : ((ofPairs pairs).map Prod.fst).Nodup := by
  -- The pairs go into what the pairs before them have made, which holds no key twice.
  have hall : ∀ entries : Mapping α, (entries.map Prod.fst).Nodup →
      ((insertAll pairs entries).map Prod.fst).Nodup := by
    induction pairs with
    | nil => exact fun _ h => h
    | cons pair pairs ih => exact fun entries h => ih _ (nodup_keys_insert h pair.1 pair.2)
  exact hall [] List.nodup_nil

theorem mem_of_mem_ofPairs {pairs : List (Text × α)} {pair : Text × α} (h : pair ∈ ofPairs pairs) :
    pair ∈ pairs := by
  have hget := (get?_eq_some_iff (nodup_keys_ofPairs pairs)).2 h
  rw [get?_ofPairs] at hget
  exact List.mem_reverse.1 (mem_of_get? hget)

theorem get?_insertAll_ofPairs (pairs : List (Text × α)) (entries : Mapping α) (key : Text) :
    get? key (insertAll (ofPairs pairs) entries) = (get? key (ofPairs pairs)).or (entries.get? key) := by
  rw [get?_insertAll, get?_perm (List.reverse_perm _) (nodup_keys_ofPairs pairs)]

theorem get?_ofPairs_perm {entries : Mapping α} {pairs : List (Text × α)} (hperm : pairs.Perm entries)
    (h : (entries.map Prod.fst).Nodup) (key : Text) : get? key (ofPairs pairs) = entries.get? key := by
  rw [get?_ofPairs]
  exact get?_perm (pairs.reverse_perm.trans hperm) h key

/-! ### Keys of another kind -/

variable {κ : Type} [DecidableEq κ] {key : Text → κ}
  (hinjective : ∀ first second, key first = key second → first = second)

include hinjective

/-- The keys of a mapping may be replaced by others, if they stay apart. -/
theorem insert_map_keys (entries : Mapping α) (name : Text) (value : α) :
    insert (key name) value (entries.map fun (k, a) => (key k, a)) =
      (insert name value entries).map fun (k, a) => (key k, a) := by
  induction entries with
  | nil => rfl
  | cons entry entries ih =>
    obtain ⟨k, a⟩ := entry
    by_cases hk : k = name
    · subst hk
      simp [insert]
    · have hkey : key k ≠ key name := fun heq => hk (hinjective k name heq)
      simpa [insert, hk, hkey] using ih

theorem ofPairs_map_keys (pairs : List (Text × α)) :
    ofPairs (pairs.map fun (k, a) => (key k, a)) = (ofPairs pairs).map fun (k, a) => (key k, a) := by
  have hall : ∀ entries : Mapping α,
      insertAll (pairs.map fun (k, a) => (key k, a)) (entries.map fun (k, a) => (key k, a)) =
        (insertAll pairs entries).map fun (k, a) => (key k, a) := by
    induction pairs with
    | nil => exact fun _ => rfl
    | cons pair pairs ih =>
      intro entries
      have hstep := ih (insert pair.1 pair.2 entries)
      rw [← insert_map_keys hinjective] at hstep
      exact hstep
  exact hall []

end Stencil.Mapping
