import Stencil.Proofs.Scan.Decomposition
import Stencil.Text.Lines
import Stencil.Text.Utf8

/-!
Line ends, said by replacements. A text is unified when each carriage return with a line feed behind it has become
a line feed, and then each carriage return that is left has become one too (`unified_eq_lineFed`). The one pass
that `Text.unified` makes looks one character ahead to tell the two kinds apart. No carriage return is left then, and
the text has not become longer in a file.
-/

namespace Stencil.Text

/-! ### A replacement, character by character -/

@[simp] theorem replaceAll_nil (old : Marker) (new : Text) : replaceAll old new [] = [] := by
  rw [replaceAll_eq, cut?_eq_none_iff.2 (by simpa using old.nonempty)]

theorem replaceAll_self_append (old : Marker) (new text : Text) :
    replaceAll old new (old.text ++ text) = new ++ replaceAll old new text := by
  rw [replaceAll_eq, cut?_self_append old.nonempty]
  rfl

theorem replaceAll_cons {old : Marker} {c : Char} {text : Text} (h : ¬ old.text <+: c :: text)
    (new : Text) : replaceAll old new (c :: text) = c :: replaceAll old new text := by
  rw [replaceAll_eq, cut?_cons_of_none (after?_eq_none_iff.2 h), replaceAll_eq old new text]
  cases cut? old.text text <;> rfl

/-! ### Line ends -/

def returnAndFeed : Marker := ⟨['\r', '\n'], List.cons_ne_nil _ _⟩

def carriageReturn : Marker := ⟨['\r'], List.cons_ne_nil _ _⟩

/-- The text in which each carriage return with a line feed behind it, and then each one that is left, has become
a line feed. -/
def lineFed (text : Text) : Text :=
  replaceAll carriageReturn ['\n'] (replaceAll returnAndFeed ['\n'] text)

@[simp] theorem lineFed_nil : lineFed [] = [] := by
  simp [lineFed]

theorem lineFed_return_feed (text : Text) : lineFed ('\r' :: '\n' :: text) = '\n' :: lineFed text := by
  show replaceAll carriageReturn ['\n'] (replaceAll returnAndFeed ['\n'] (returnAndFeed.text ++ text)) = _
  rw [replaceAll_self_append, List.singleton_append, replaceAll_cons (by simp [carriageReturn])]
  rfl

theorem lineFed_return {text : Text} (h : text.head? ≠ some '\n') :
    lineFed ('\r' :: text) = '\n' :: lineFed text := by
  have hlone : ¬ returnAndFeed.text <+: '\r' :: text := by
    rintro ⟨rest, hrest⟩
    rw [← (List.cons.inj hrest).2] at h
    exact h rfl
  rw [lineFed, replaceAll_cons hlone]
  exact replaceAll_self_append carriageReturn ['\n'] _

theorem lineFed_cons {c : Char} (h : c ≠ '\r') (text : Text) :
    lineFed (c :: text) = c :: lineFed text := by
  have hother (marker : Marker) (rest : Text) (hmarker : marker.text.head? = some '\r') :
      ¬ marker.text <+: c :: rest := by
    rintro ⟨after, hafter⟩
    cases htext : marker.text with
    | nil => exact marker.nonempty htext
    | cons d tail =>
      rw [htext, List.head?_cons, Option.some.injEq] at hmarker
      rw [htext, List.cons_append, List.cons.injEq] at hafter
      exact h (hafter.1.symm.trans hmarker)
  rw [lineFed, replaceAll_cons (hother returnAndFeed _ rfl), replaceAll_cons (hother carriageReturn _ rfl)]
  rfl

theorem unifiedOnto_eq_lineFed (seen text : Text) :
    unifiedOnto seen text = seen.reverse ++ lineFed text := by
  fun_induction unifiedOnto seen text with
  | case1 seen => simp
  | case2 seen text ih => simp [ih, lineFed_return_feed]
  | case3 seen text hfeed ih =>
    have hhead : text.head? ≠ some '\n' := by
      cases text with
      | nil => simp
      | cons c text => exact fun hc => hfeed text (by rw [Option.some.inj hc])
    simp [ih, lineFed_return hhead]
  | case4 seen c text _ hreturn ih => simp [ih, lineFed_cons hreturn]

theorem unified_eq_lineFed (text : Text) : text.unified = lineFed text :=
  unifiedOnto_eq_lineFed [] text

/-! ### What is left -/

theorem return_notMem_unifiedOnto {seen text : Text} (h : '\r' ∉ seen) : '\r' ∉ unifiedOnto seen text := by
  fun_induction unifiedOnto seen text with
  | case1 seen => simpa using h
  | case2 seen text ih => exact ih (by simpa using h)
  | case3 seen text _ ih => exact ih (by simpa using h)
  | case4 seen c text _ hreturn ih => exact ih (by simpa using ⟨Ne.symm hreturn, h⟩)

theorem return_notMem_lineFed (text : Text) : '\r' ∉ lineFed text := by
  rw [← unified_eq_lineFed]
  exact return_notMem_unifiedOnto List.not_mem_nil

theorem length_encode_unifiedOnto_le (seen text : Text) :
    (Utf8.encode (unifiedOnto seen text)).length ≤ (Utf8.encode seen).length + (Utf8.encode text).length := by
  fun_induction unifiedOnto seen text with
  | case1 seen => simp [Utf8.encode, List.length_flatMap]
  | case2 seen text ih =>
    have hend : (Utf8.encodeChar '\r').length = 1 := rfl
    simp only [Utf8.encode_cons, List.length_append] at ih ⊢
    omega
  | case3 seen text _ ih =>
    have hend : (Utf8.encodeChar '\r').length = (Utf8.encodeChar '\n').length := rfl
    simp only [Utf8.encode_cons, List.length_append] at ih ⊢
    omega
  | case4 seen c text _ _ ih =>
    simp only [Utf8.encode_cons, List.length_append] at ih ⊢
    omega

theorem length_encode_lineFed_le (text : Text) :
    (Utf8.encode (lineFed text)).length ≤ (Utf8.encode text).length := by
  rw [← unified_eq_lineFed]
  simpa [unified] using length_encode_unifiedOnto_le [] text

end Stencil.Text
