import Stencil.Text.Basic

/-!
Lines of a text end in a line feed. Files and input streams may also end them in a carriage return or in
a carriage return and a line feed; `Text.unified` writes all three the same way, which is how a text is
seen from the moment it has been read. Places in a text are counted in characters from zero, and shown
as a line and a column that are counted from one.
-/

namespace Stencil.Text

/-- `seen` back to front, and then `text` with every line ended by a line feed. -/
def unifiedOnto (seen : Text) : Text → Text
  | [] => seen.reverse
  | '\r' :: '\n' :: text => unifiedOnto ('\n' :: seen) text
  | '\r' :: text => unifiedOnto ('\n' :: seen) text
  | c :: text => unifiedOnto (c :: seen) text

/-- The text with every line ended by a line feed alone. -/
def unified (text : Text) : Text :=
  unifiedOnto [] text

theorem unifiedOnto_append (seen more text : Text) :
    unifiedOnto (seen ++ more) text = more.reverse ++ unifiedOnto seen text := by
  fun_induction unifiedOnto seen text with
  | case1 seen => simp [unifiedOnto]
  | case2 seen text ih => simpa [unifiedOnto] using ih
  | case3 seen text h ih => rw [unifiedOnto.eq_3 _ _ h]; simpa using ih
  | case4 seen c text h h' ih => rw [unifiedOnto.eq_4 _ _ _ h h']; simpa using ih

theorem unifiedOnto_eq (seen text : Text) :
    unifiedOnto seen text = seen.reverse ++ unified text := by
  simpa [unified] using unifiedOnto_append [] seen text

structure Place where
  line : Nat
  column : Nat
  deriving DecidableEq, Repr

def place (text : Text) (offset : Nat) : Place :=
  let before := text.take offset
  ⟨before.count '\n' + 1, (before.reverse.takeWhile (· ≠ '\n')).length + 1⟩

end Stencil.Text
