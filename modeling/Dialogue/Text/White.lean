/-!
# White space

The characters with the Unicode property White_Space, and dropping them at the ends of a text.
-/

namespace Dialogue

/-- The characters that count as white space. -/
def isWhite (c : Char) : Bool :=
  let n := c.toNat
  (9 ≤ n && n ≤ 13) || n == 0x20 || n == 0x85 || n == 0xA0 || n == 0x1680 ||
    (0x2000 ≤ n && n ≤ 0x200A) || n == 0x2028 || n == 0x2029 || n == 0x202F || n == 0x205F ||
    n == 0x3000

/-- Drop white space at the end. -/
def trimEnd (cs : List Char) : List Char := (cs.reverse.dropWhile isWhite).reverse

/-- Drop white space at both ends. -/
def trim (cs : List Char) : List Char := trimEnd (cs.dropWhile isWhite)

end Dialogue
