/-!
# Hexadecimal digits

Natural numbers in small hexadecimal digits, with zeros in front up to a width.

## Main definitions

* `Text.hexDigits` — the digits of a number.
-/

namespace StaticWiring.Text

/-- The small hexadecimal digits of a number, with zeros in front if there are fewer than
`width`. -/
def hexDigits (width n : Nat) : List Char :=
  let digits := Nat.toDigits 16 n
  List.replicate (width - digits.length) '0' ++ digits

end StaticWiring.Text
