import Mathlib.Data.List.Forall2
import Stencil.Proofs.Pipeline.Failure
import Stencil.Property

/-!
Where the options of placeholders come from. A caller gives an option or leaves it open, and what is left open is
looked for among the variables, each option by itself. `Property.asked` says which settings come of that, and
says it without the text functions that the search is made of: a text is the word that enables defaults if each
of its letters is that of the word, in either case (`Text.IsWord`). Under these settings a run does what the
filling of placeholders does, with the same notes (`fill_as_processed`).
-/

namespace Stencil

/-! ### Words in letters of either case -/

namespace Text

/-- A text is this word of small letters, up to the case of each letter. -/
def IsWord (word text : Text) : Prop :=
  List.Forall₂ (fun c letter => c = letter ∨ c = letter.toUpper) text word

theorem toLower_eq_iff {letter : Char} (h : letter.isLower = true) (c : Char) :
    c.toLower = letter ↔ c = letter ∨ c = letter.toUpper := by
  delta Char.isLower at h
  delta Char.toLower Char.toUpper
  simp only [Bool.and_eq_true, decide_eq_true_eq] at h
  simp only [Char.ext_iff, ← UInt32.toNat_inj, dif_pos h]
  split <;> grind [UInt32.toNat_add, UInt32.le_iff_toNat_le]

theorem lowered_char_eq_iff {letter : Char} (h : letter.isLower = true) (hk : letter ≠ 'k') (c : Char) :
    (if c = '\u212a' then 'k' else c.toLower) = letter ↔ c = letter ∨ c = letter.toUpper := by
  split
  · next hkelvin =>
    refine ⟨fun hletter => absurd hletter.symm hk, fun hcase => ?_⟩
    -- The third is the Kelvin sign, which `toLower` leaves alone and which is no small letter.
    have hletter : '\u212a' = letter := (toLower_eq_iff h '\u212a').2 (hkelvin ▸ hcase)
    rw [← hletter] at h
    cases h
  · exact toLower_eq_iff h c

theorem lowered_eq_iff {word : Text} (h : ∀ letter ∈ word, letter.isLower = true ∧ letter ≠ 'k')
    (text : Text) : text.lowered = word ↔ IsWord word text := by
  induction text generalizing word with
  | nil => cases word <;> simp [lowered, IsWord]
  | cons c text ih =>
    cases word with
    | nil => simp [lowered, IsWord]
    | cons letter word =>
      obtain ⟨hsmall, hk⟩ := h letter List.mem_cons_self
      have hrest := ih fun other hother => h other (List.mem_cons_of_mem _ hother)
      rw [IsWord, List.forall₂_cons, ← lowered_char_eq_iff hsmall hk]
      show _ :: lowered text = letter :: word ↔ _ ∧ IsWord word text
      rw [List.cons_eq_cons, hrest]

end Text

namespace Property

/-! ### Options -/

/-- The variables enable defaults: they have the key for that, and its text is the word for it. -/
def Enables (vars : Option Variables) : Prop :=
  ∃ mapping value, vars = some mapping ∧ mapping.get? enableKey = some value ∧
    Text.IsWord "true".toList value.display

theorem enables_iff (vars : Option Variables) :
    (textOr vars enableKey "false".toList).lowered = "true".toList ↔ Enables vars := by
  rw [Text.lowered_eq_iff (by simp)]
  cases vars with
  | none =>
    refine ⟨fun hword => ?_, ?_⟩
    · have hlength := hword.length_eq
      exact absurd hlength (by decide)
    · rintro ⟨mapping, value, hnone, -⟩
      cases hnone
  | some mapping =>
    cases hvalue : mapping.get? enableKey with
    | none =>
      refine ⟨fun hword => ?_, ?_⟩
      · rw [textOr, Option.bind_some, hvalue] at hword
        have hlength := hword.length_eq
        exact absurd hlength (by decide)
      · rintro ⟨mapping', value, hsome, hfound, -⟩
        cases hsome
        rw [hvalue] at hfound
        cases hfound
    | some value =>
      rw [textOr, Option.bind_some, hvalue]
      refine ⟨fun hword => ⟨mapping, value, rfl, hvalue, hword⟩, ?_⟩
      rintro ⟨mapping', value', hsome, hfound, hword⟩
      cases hsome
      rw [hvalue] at hfound
      cases hfound
      exact hword

instance (vars : Option Variables) : Decidable (Enables vars) :=
  decidable_of_iff _ (enables_iff vars)

example : Enables (some [(enableKey, .bool true)]) ∧ ¬ Enables (some [(enableKey, .text " true".toList)]) := by
  decide

/-- The settings with the markers of placeholders, and with the options that are given or else found among the
variables or else have a value of their own. -/
def asked (settings : Settings) (vars : Option Variables) (enable : Option Bool)
    (separator : Option Text) : Settings :=
  { settings with
    opening := ['$', '\x7b']
    closing := ['\x7d']
    enableDefault := enable.getD (decide (Enables vars))
    separator := separator.getD (((vars.bind (Mapping.get? separatorKey)).map Value.display).getD [':']) }

variable {settings : Settings} {vars : Option Variables} {enable : Option Bool} {separator : Option Text}

theorem markers_asked : (asked settings vars enable separator).markers = .ok markers := rfl

theorem lookup_asked :
    (asked settings vars enable separator).lookup markers vars = lookup vars enable separator := by
  have henabled : decide (Enables vars) =
      ((textOr vars enableKey "false".toList).lowered == "true".toList) := by
    rw [Bool.eq_iff_iff, decide_eq_true_iff, beq_iff_eq, enables_iff]
  have hseparator : ((vars.bind (Mapping.get? separatorKey)).map Value.display).getD [':'] =
      textOr vars separatorKey [':'] := by
    rw [textOr]
    cases vars.bind (Mapping.get? separatorKey) <;> rfl
  rw [lookup, ← henabled, ← hseparator]
  rfl

theorem reply_of_found {lookup : Lookup} {content key : Text} {value : Value}
    (hname : (lookup.question content).1 = key)
    (hvalue : lookup.vars.bind (Mapping.get? key) = some value) :
    lookup.reply content = value.display := by
  cases hvars : lookup.vars with
  | none =>
    rw [hvars] at hvalue
    cases hvalue
  | some mapping =>
    rw [hvars, Option.bind_some, ← hname] at hvalue
    simp [Lookup.reply, Lookup.answer?, hvars, hvalue]

/-- The filling of placeholders does what a run does under the settings that are asked for: it never fails, and
the result and the notes are those of the run. The keys of the options are answered like all others: where a
span asks for one of them, its text is put. -/
theorem fill_as_processed (settings : Settings) (world : World) (vars : Option Variables)
    (enable : Option Bool) (separator text : Option Text) :
    let lookup := (asked settings vars enable separator).lookup markers vars
    let segmentation := markers.segment (text.getD [])
    ∃ (reply : Text → Text) (notes : List Note),
      let result := markers.assemble segmentation ((markers.contents segmentation).map reply)
      (fill vars enable separator (text.getD [])).outcome = (.ok result, notes) ∧
        processed world (asked settings vars enable separator) false vars text =
          (⟨result, none, true⟩, notes) ∧
        ∀ key ∈ [enableKey, separatorKey], ∀ value, vars.bind (Mapping.get? key) = some value →
          ∀ content, (lookup.question content).1 = key → reply content = value.display := by
  intro lookup segmentation
  refine ⟨lookup.reply, lookup.notesOn (markers.contents segmentation), ?_, ?_, ?_⟩
  · rw [← Markers.filled_eq_assemble, fill, ← @lookup_asked settings]
    exact markers.fill_noted lookup (text.getD []) []
  · rw [← Markers.filled_eq_assemble, processed, process_without_files markers_asked]
    rfl
  · intro key _ value hvalue content hname
    exact reply_of_found hname hvalue

end Property

end Stencil
