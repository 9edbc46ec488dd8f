/-!
# White space

The characters with the Unicode property `White_Space`, and texts without white space at their ends.

## Main definitions

* `Text.isBlank` — white space.
* `Text.trimStart`, `Text.trim` — a text without its leading, or leading and trailing, white space.
-/

namespace StaticWiring.Text

/-- The characters with the Unicode property `White_Space`. There are more of them than the ones of
ASCII. -/
def isBlank (c : Char) : Bool :=
  let n := c.toNat
  (0x9 ≤ n && n ≤ 0xD) || n == 0x20 || n == 0x85 || n == 0xA0 || n == 0x1680 ||
    (0x2000 ≤ n && n ≤ 0x200A) || n == 0x2028 || n == 0x2029 || n == 0x202F || n == 0x205F ||
    n == 0x3000

/-- The text without leading white space. It may become empty. -/
def trimStart (cs : List Char) : List Char :=
  cs.dropWhile isBlank

/-- The text without trailing white space. It may become empty. -/
def trimEnd (cs : List Char) : List Char :=
  (cs.reverse.dropWhile isBlank).reverse

/-- The text without leading and trailing white space. White space inside the text stays. -/
def trim (s : String) : String :=
  String.ofList (trimEnd (trimStart s.toList))

end StaticWiring.Text
