/-!
# Blank characters

The characters that count as white space in any script, and texts without the blanks
around them.

## Main definitions

* `isBlank`: Whether a character is white space.
* `trim`: A text without the blanks at its two ends.
-/

namespace Gatehouse.Text

/-- White space of any script. -/
def isBlank (c : Char) : Bool :=
  let n := c.toNat
  (0x9 ≤ n && n ≤ 0xD) || n == 0x20 || n == 0x85 || n == 0xA0 || n == 0x1680 ||
    (0x2000 ≤ n && n ≤ 0x200A) || n == 0x2028 || n == 0x2029 || n == 0x202F ||
    n == 0x205F || n == 0x3000

/-- The characters without those at the two ends that satisfy the predicate. -/
def trimList (p : Char → Bool) (cs : List Char) : List Char :=
  ((cs.dropWhile p).reverse.dropWhile p).reverse

/-- A text without the blanks at its two ends. -/
def trim (s : String) : String :=
  String.ofList (trimList isBlank s.toList)

end Gatehouse.Text
