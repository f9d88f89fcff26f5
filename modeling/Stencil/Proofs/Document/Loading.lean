import Stencil.Proofs.Document.Reading
import Stencil.Proofs.Mapping.Entries
import Stencil.Surroundings.Wording
import Mathlib.Data.List.TakeDrop

/-!
A file of variables holds what was written to it. The values that have no parts are followed through a document and
back: texts, whole numbers, truth values and null. What is written between quotes is read elsewhere. What is left are
the words, which are short, and the numbers, where the reader has to stop at the right place: digits are followed by
a gap, a comma or a brace, so neither a point nor a power of ten can come behind them, and no digit either.

Under a name that is there more than once the last member counts, and without such names the order of the members is
lost and nothing else (`load_rendering`).
-/

namespace Stencil

namespace Value

/-- The text form of a value without parts. -/
inductive TextForm : Value → Text → Prop
  | null : TextForm .null "None".toList
  | yes : TextForm (.bool true) "True".toList
  | no : TextForm (.bool false) "False".toList
  | int (n : Int) : TextForm (.int n) (toString n).toList
  | text (text : Text) : TextForm (.text text) text

theorem displayInt_eq (n : Int) : displayInt n = (toString n).toList := by
  cases n with
  | ofNat n =>
    have hsign : ¬ (Int.ofNat n < 0) := by simp
    have hshown : toString (Int.ofNat n) = n.repr := rfl
    rw [displayInt, if_neg hsign, hshown, Nat.toList_repr]
    rfl
  | negSucc n =>
    have hshown : toString (Int.negSucc n) = "-" ++ (n + 1).repr := rfl
    rw [displayInt, if_pos (Int.negSucc_lt_zero n), hshown, String.toList_append, Nat.toList_repr]
    rfl

end Value

namespace Document

inductive WritesScalar : Value → Text → Prop
  | null : WritesScalar .null "null".toList
  | yes : WritesScalar (.bool true) "true".toList
  | no : WritesScalar (.bool false) "false".toList
  | whole {n : Nat} : (Nat.toDigits 10 n).length ≤ 4300 → WritesScalar (.int n) (Nat.toDigits 10 n)
  | negative {n : Nat} : (Nat.toDigits 10 n).length ≤ 4300 →
      WritesScalar (.int (-n)) ('-' :: Nat.toDigits 10 n)
  | string {value : Value} {written : Text} : WritesString value written → WritesScalar value written

theorem WritesScalar.textForm {value : Value} {written : Text} (h : WritesScalar value written) :
    value.TextForm value.display := by
  cases h with
  | null => exact .null
  | yes => exact .yes
  | no => exact .no
  | whole | negative =>
    rw [Value.display, Value.shown, Value.displayInt_eq]
    · exact .int _
    all_goals simp
  | string hstring =>
    obtain ⟨-⟩ := hstring
    exact .text _

variable {rest : Text}

/-! ### Digits -/

theorem isDigit_of_mem_toDigits {n : Nat} {c : Char} (h : c ∈ Nat.toDigits 10 n) : isDigit c = true := by
  have hdigit := Nat.isDigit_of_mem_toDigits (by decide) (by decide) h
  exact hdigit

theorem exists_toDigits_eq_cons (n : Nat) :
    ∃ d digits, Nat.toDigits 10 n = d :: digits ∧ isDigit d = true := by
  obtain ⟨d, digits, hdigits⟩ := List.exists_cons_of_ne_nil (@Nat.toDigits_ne_nil n 10)
  have hmem : d ∈ Nat.toDigits 10 n := hdigits ▸ List.mem_cons_self
  exact ⟨d, digits, hdigits, isDigit_of_mem_toDigits hmem⟩

theorem notMem_of_isDigit {d : Char} (hd : isDigit d = true) {others : List Char}
    (h : ∀ c ∈ others, isDigit c = false) : d ∉ others := by
  intro hmem
  rw [h d hmem] at hd
  exact absurd hd (by decide)

theorem head?_toDigits_ne_zero {n : Nat} (h : 0 < n) : (Nat.toDigits 10 n).head? ≠ some '0' := by
  have hall : ∀ n < 10, 0 < n → [Nat.digitChar n].head? ≠ some '0' := by decide
  induction n using Nat.strongRecOn with
  | ind n ih =>
    by_cases hsmall : n < 10
    · rw [Nat.toDigits_of_lt_base hsmall]
      exact hall n hsmall h
    · rw [Nat.toDigits_of_base_le (by decide) (Nat.not_lt.1 hsmall),
        List.head?_append, Option.or_of_isSome (by simp [Nat.toDigits_ne_nil])]
      exact ih (n / 10) (by omega) (by omega)

theorem digitsValue_toDigits (n : Nat) : digitsValue (Nat.toDigits 10 n) = n := by
  calc digitsValue (Nat.toDigits 10 n)
      = Nat.ofDigitChars 10 (Nat.toDigits 10 n) 0 := by
        simp only [digitsValue, Nat.ofDigitChars, Nat.mul_comm]
        rfl
    _ = n := Nat.ofDigitChars_ten_toDigits

theorem digitRun_append {digits : Text} (hdigits : ∀ c ∈ digits, isDigit c = true)
    (hrest : ∀ c ∈ rest.head?, isDigit c = false) : digitRun (digits ++ rest) = (digits, rest) := by
  have hstop : rest.takeWhile isDigit = [] ∧ rest.dropWhile isDigit = rest := by
    cases rest with
    | nil => simp
    | cons c rest => simp [hrest c rfl]
  rw [digitRun, List.span_eq_takeWhile_dropWhile, List.takeWhile_append_of_pos hdigits,
    List.dropWhile_append_of_pos hdigits, hstop.1, hstop.2, List.append_nil]

theorem wholePart?_toDigits (n : Nat) (hrest : ∀ c ∈ rest.head?, isDigit c = false) :
    wholePart? (Nat.toDigits 10 n ++ rest) = some (Nat.toDigits 10 n, rest) := by
  have hrun := digitRun_append (fun _ hc => isDigit_of_mem_toDigits (n := n) hc) hrest
  rcases Nat.eq_zero_or_pos n with rfl | hpos
  · rfl
  · have hzero := head?_toDigits_ne_zero hpos
    obtain ⟨d, digits, hdigits, -⟩ := exists_toDigits_eq_cons n
    rw [hdigits] at hzero hrun ⊢
    rw [List.cons_append] at hrun ⊢
    rw [wholePart?, hrun]
    simpa using hzero

/-! ### Numbers and words -/

theorem exists_cons_of_head?_mem {cs : List Char} (h : rest.head? ∈ cs.map some) :
    ∃ c more, rest = c :: more ∧ c ∈ cs := by
  obtain ⟨c, hc, hhead⟩ := List.mem_map.1 h
  obtain ⟨more, hmore⟩ := List.head?_eq_some_iff.1 hhead.symm
  exact ⟨c, more, hmore, hc⟩

theorem unsigned?_toDigits (negative : Bool) {n : Nat} (hsize : (Nat.toDigits 10 n).length ≤ maxDigits)
    (hrest : rest.head? ∈ [' ', '\t', '\n', '\r', ',', '}'].map some) :
    unsigned? negative (Nat.toDigits 10 n ++ rest) =
      some (.ok (.int (if negative then -n else n), rest)) := by
  obtain ⟨c, more, rfl, hc⟩ := exists_cons_of_head?_mem hrest
  have hall : ∀ c ∈ [' ', '\t', '\n', '\r', ',', '}'],
      isDigit c = false ∧ c ≠ '.' ∧ c ≠ 'e' ∧ c ≠ 'E' := by simp [isDigit]
  obtain ⟨hdigit, hpoint, hsmall, hcapital⟩ := hall c hc
  have hwhole : wholePart? (Nat.toDigits 10 n ++ c :: more) = some (Nat.toDigits 10 n, c :: more) :=
    wholePart?_toDigits n (by simpa using hdigit)
  have hfraction : fractionPart (c :: more) = (none, c :: more) := by
    rw [fractionPart]
    simpa using hpoint
  have hpower : powerPart (c :: more) = (none, c :: more) := by
    unfold powerPart
    exact if_neg (by simp [hsmall, hcapital])
  simp [unsigned?, hwhole, hfraction, hpower, Nat.not_lt.2 hsize, digitsValue_toDigits]

/-- A text that begins with none of the words begins with a number, if it begins with a value at all. -/
theorem scalar_of_number {text : Text} {found : Except Fault (Value × Text)}
    (hwords : ∀ entry ∈ words, Text.after? entry.1 text = none) (hnumber : number? text = some found) :
    scalar text = found := by
  unfold scalar
  split
  · next other hother =>
    obtain ⟨entry, hentry, hword⟩ := List.exists_of_findSome?_eq_some hother
    simp [hwords entry hentry] at hword
  · rw [hnumber]
    rfl

theorem valueFrom_eq_scalar {c : Char} (h : c ∉ ['"', '[', '{']) (fuel : Nat) (text : Text) :
    valueFrom (fuel + 1) (c :: text) = scalar (c :: text) := by
  rw [valueFrom]
  all_goals simp_all

theorem after?_words_eq_none {d : Char} (hd : isDigit d = true) (text : Text) :
    ∀ entry ∈ words, Text.after? entry.1 (d :: text) = none ∧
      Text.after? entry.1 ('-' :: d :: text) = none := by
  have hfirst : d ∉ ['n', 't', 'f', 'N', 'I', '-'] := notMem_of_isDigit hd (by simp [isDigit])
  have hother : ∀ c ∈ ['n', 't', 'f', 'N', 'I', '-'], c ≠ d := fun c hc heq => hfirst (heq ▸ hc)
  simp only [List.forall_mem_cons] at hother
  simp [words, Text.after?, hother]

theorem number?_of_isDigit {d : Char} (hd : isDigit d = true) (text : Text) :
    number? (d :: text) = unsigned? false (d :: text) := by
  rw [number?]
  -- A number with a sign is read elsewhere, but a sign is no digit.
  rintro _ hminus
  rw [(List.cons.inj hminus).1] at hd
  exact absurd hd (by decide)

theorem scalar_toDigits {n : Nat} (hsize : (Nat.toDigits 10 n).length ≤ maxDigits)
    (hrest : rest.head? ∈ [' ', '\t', '\n', '\r', ',', '}'].map some) :
    scalar (Nat.toDigits 10 n ++ rest) = .ok (.int n, rest) ∧
      scalar ('-' :: (Nat.toDigits 10 n ++ rest)) = .ok (.int (-n), rest) := by
  have hplain := unsigned?_toDigits false hsize hrest
  have hsigned := unsigned?_toDigits true hsize hrest
  obtain ⟨d, digits, hdigits, hd⟩ := exists_toDigits_eq_cons n
  have hwords := after?_words_eq_none hd (digits ++ rest)
  rw [hdigits, List.cons_append] at hplain hsigned ⊢
  have hnumber := (number?_of_isDigit hd (digits ++ rest)).trans hplain
  exact ⟨scalar_of_number (fun entry hentry => (hwords entry hentry).1) hnumber,
    scalar_of_number (fun entry hentry => (hwords entry hentry).2) hsigned⟩

/-! ### Values without parts -/

theorem firm_toDigits (n : Nat) : Firm (Nat.toDigits 10 n) := by
  have hgap {c : Char} (hc : c ∈ Nat.toDigits 10 n) : c ∉ [' ', '\t', '\n', '\r'] :=
    notMem_of_isDigit (isDigit_of_mem_toDigits hc) (by simp [isDigit])
  obtain ⟨d, digits, hdigits, -⟩ := exists_toDigits_eq_cons n
  exact ⟨⟨d, digits, hdigits, hgap (hdigits ▸ List.mem_cons_self)⟩, fun hmem => hgap hmem (by decide)⟩

theorem WritesScalar.firm {value : Value} {written : Text} (h : WritesScalar value written) :
    Firm written := by
  cases h with
  | null | yes | no => exact ⟨⟨_, _, rfl, by decide⟩, by decide⟩
  | @whole n => exact firm_toDigits n
  | @negative n => exact ⟨⟨'-', _, rfl, by decide⟩, by simp [(firm_toDigits n).whole]⟩
  | string hstring => exact legible_writesString.firm hstring

theorem legible_writesScalar : Legible WritesScalar where
  firm h := h.firm
  whole h := by
    cases h with
    | string hstring => exact legible_writesString.whole hstring
    | _ => rfl
  reads h fuel rest hrest := by
    cases h with
    | null | yes | no => rfl
    | @whole n hsize =>
      have hscalar := (scalar_toDigits hsize hrest).1
      obtain ⟨d, digits, hdigits, hd⟩ := exists_toDigits_eq_cons n
      have hplain : d ∉ ['"', '[', '{'] := notMem_of_isDigit hd (by simp [isDigit])
      rw [hdigits, List.cons_append] at hscalar ⊢
      rw [valueFrom_eq_scalar hplain, hscalar]
    | negative hsize =>
      rw [List.cons_append, valueFrom_eq_scalar (by decide)]
      exact (scalar_toDigits hsize hrest).2
    | string hstring => exact legible_writesString.reads hstring fuel rest hrest

end Document

/-! ### Loading -/

namespace VariableFile

/-- A file that holds a rendering of an object whose values have no parts holds its members, each with the text form
of its value: under every name the last member with that name, and nothing under other names. If no name is there
twice, this is the mapping with these members, whatever their order in the file. -/
theorem load_rendering (world : World) (path : Path) {members : List (Text × Value)} {text : Text}
    (hfile : world.files.opened? world.directory path = some (.file (Utf8.encode text)))
    (hrenders : Document.Renders Document.WritesScalar members text) :
    ∃ vars : Variables, (load world path).outcome = (.ok vars, []) ∧ (vars.map Prod.fst).Nodup ∧
      (∀ name, vars.get? name =
        (Mapping.get? name members.reverse).map fun value => .text value.display) ∧
      (∀ member ∈ members, member.2.TextForm member.2.display) ∧
      ∀ entries : Mapping Value, (entries.map Prod.fst).Nodup → members.Perm entries →
        ∀ name, vars.get? name = (entries.get? name).map fun value => .text value.display := by
  have hbytes := ofBytes_encode Document.legible_writesScalar hrenders path
  have hget (name : Text) := Mapping.get?_map (fun value : Value => Value.text value.display)
    (Mapping.ofPairs members) name
  refine ⟨_, by rw [load_of_file hfile hbytes]; rfl, ?_, fun name => ?_, fun member hmember => ?_,
    fun entries hdistinct hperm name => ?_⟩
  · have hkeys := Mapping.nodup_keys_ofPairs members
    simpa [Function.comp_def] using hkeys
  · rw [hget, Mapping.get?_ofPairs]
  · obtain ⟨written, hwritten⟩ := hrenders.exists_written member hmember
    exact hwritten.textForm
  · rw [hget, Mapping.get?_ofPairs_perm hperm hdistinct]

def listedMembers : List (Text × Value) :=
  [("n".toList, .int 10), ("\"😀".toList, .bool true), ([], .null), ("n".toList, .int (-307))]

def listed : Text :=
  "\r\n\x7b\"n\":10,\r\"\\\"\\uD83d\\ude00\" : true,\"\":null ,\n\"n\":-307\r\n\x7d".toList

def shelf : World where
  files := FileSystem.empty.write ["w".toList, "vars".toList] (Utf8.encode listed)
  directory := ⟨.single, ["w".toList]⟩
  home := "/w".toList
  users := []
  wording := .standard fun _ => ""

theorem renders_listed : Document.Renders Document.WritesScalar listedMembers listed := by
  refine ⟨[['{'], "\"n\"".toList, [':'], "10".toList, [','], "\"\\\"\\uD83d\\ude00\"".toList, [':'],
    "true".toList, [','], "\"\"".toList, [':'], "null".toList, [','], "\"n\"".toList, [':'],
    "-307".toList, ['}']],
    .full (.cons ?_ (.whole (n := 10) (by decide)) (.cons ?_ .yes (.cons (.quoted .nil) .null
      (.last ?_ (.negative (n := 307) (by decide)))))), ?_⟩
  · exact .quoted (.cons (.bare (by decide) (by decide) (by decide)) .nil)
  · exact .quoted (.cons (.short (by decide : ('"', '"') ∈ Document.shortEscapes)) (.cons (.pair (by decide)
      (.digits (by decide) (by decide) (by decide) (by decide))
      (.digits (by decide) (by decide) (by decide) (by decide))) .nil))
  · exact .quoted (.cons (.bare (by decide) (by decide) (by decide)) .nil)
  · have hnone : Document.IsWidth [] := by decide
    have hone : Document.IsWidth " ".toList := by decide
    have hline : Document.IsWidth "\r\n".toList := by decide
    exact .cons hline (.cons hnone (.cons hnone (.cons hnone (.cons hnone
      (.cons (by decide : Document.IsWidth "\r".toList) (.cons hone (.cons hone (.cons hnone
        (.cons hnone (.cons hnone (.cons hnone (.cons hone
          (.cons (by decide : Document.IsWidth "\n".toList) (.cons hnone (.cons hnone
            (.cons hline (.nil hnone)))))))))))))))))

/-- Of the two members with one name the second is there, and every value is the text that it is shown as. -/
theorem load_rendering_listed :
    shelf.files.opened? shelf.directory (Path.ofText "vars".toList) = some (.file (Utf8.encode listed)) ∧
      Document.Renders Document.WritesScalar listedMembers listed ∧
      ∃ vars : Variables, (load shelf (Path.ofText "vars".toList)).outcome = (.ok vars, []) ∧
        vars.get? "n".toList = some (.text "-307".toList) ∧
        vars.get? "\"😀".toList = some (.text "True".toList) ∧
        vars.get? [] = some (.text "None".toList) ∧ vars.get? "N".toList = none := by
  have hfile : shelf.files.opened? shelf.directory (Path.ofText "vars".toList) =
      some (.file (Utf8.encode listed)) := rfl
  obtain ⟨vars, hload, -, hget, -, -⟩ := load_rendering shelf (Path.ofText "vars".toList) hfile renders_listed
  refine ⟨hfile, renders_listed, vars, hload, ?_⟩
  simp only [hget]
  exact ⟨rfl, rfl, rfl, rfl⟩

end VariableFile

end Stencil
