/-!
Blank characters at the ends of a text, and their removal. Tag text and numeric text disagree on
whether the four information separators are blank, so there are two sets.
-/

set_option autoImplicit false
set_option relaxedAutoImplicit false

namespace Tracing.Text

def isSpace (c : Char) : Bool :=
  let n := c.toNat
  (0x09 ≤ n && n ≤ 0x0D) || n == 0x20 || n == 0x85 || n == 0xA0 || n == 0x1680 ||
    (0x2000 ≤ n && n ≤ 0x200A) || n == 0x2028 || n == 0x2029 || n == 0x202F || n == 0x205F ||
    n == 0x3000

def isBlank (c : Char) : Bool :=
  isSpace c || (0x1C ≤ c.toNat && c.toNat ≤ 0x1F)

def trimList (blank : Char → Bool) (cs : List Char) : List Char :=
  ((cs.dropWhile blank).reverse.dropWhile blank).reverse

def trim (cs : List Char) : List Char := trimList isBlank cs

end Tracing.Text
