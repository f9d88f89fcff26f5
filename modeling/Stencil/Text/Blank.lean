import Stencil.Text.Basic

/-!
Two sets of blanks, kept apart because they differ in four characters. The property White_Space of the
Unicode standard has twenty-five members. The blanks that are trimmed off a file name are those and the
four information separators U+001C to U+001F, twenty-nine in all.
-/

namespace Stencil.Blank

def isWhiteSpace (c : Char) : Bool :=
  let n := c.toNat
  (9 ≤ n && n ≤ 13) || n == 0x20 || n == 0x85 || n == 0xa0 || n == 0x1680 ||
    (0x2000 ≤ n && n ≤ 0x200a) || n == 0x2028 || n == 0x2029 || n == 0x202f || n == 0x205f ||
    n == 0x3000

def isInformationSeparator (c : Char) : Bool :=
  0x1c ≤ c.toNat && c.toNat ≤ 0x1f

def isBlank (c : Char) : Bool :=
  isWhiteSpace c || isInformationSeparator c

end Stencil.Blank

namespace Stencil.Text

def trim (off : Char → Bool) (text : Text) : Text :=
  ((text.dropWhile off).reverse.dropWhile off).reverse

end Stencil.Text
