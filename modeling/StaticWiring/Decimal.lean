import StaticWiring.Text.Cut

/-!
# Decimal numerals

A decimal numeral is an optional sign, digits with at most one point among them, and an optional
exponent. It denotes `coefficient * 10 ^ exponent`. Rounded to a binary floating-point number it is
finite if it lies below the point half a unit above the largest one.

## Main definitions

* `Decimal`, `Decimal.parse?` — the magnitude that a numeral denotes.
* `Decimal.below` — comparison with a natural number.
* `Decimal.singleBound`, `Decimal.doubleBound` — where rounding leaves the finite numbers of 32 and
  of 64 bits.
-/

namespace StaticWiring

/-- The number `coefficient * 10 ^ exponent`. It is exact, so that rounding is left to whoever asks
whether the number fits. -/
structure Decimal where
  /-- The digits as a natural number. -/
  coefficient : Nat
  /-- The power of ten. -/
  exponent : Int
deriving DecidableEq

namespace Decimal

/-! ### Numerals -/

/-- A text without its sign, and whether the sign is a minus. At most one sign is taken, so that
what follows a second one is no number. -/
def splitSign : List Char → Bool × List Char
  | '-' :: cs => (true, cs)
  | '+' :: cs => (false, cs)
  | cs => (false, cs)

/-- The integer that an exponent denotes: an optional sign and digits. There has to be at least one
digit, and nothing may follow. -/
def exponent? (cs : List Char) : Option Int :=
  let (negative, digits) := splitSign cs
  if digits.isEmpty || !digits.all Char.isDigit then none
  else
    let n : Int := Nat.ofDigitChars 10 digits 0
    some (if negative then -n else n)

/-- The magnitude that a numeral without sign denotes. There has to be a digit before or behind the
dot, and nothing may follow the exponent. -/
def magnitude? (cs : List Char) : Option Decimal :=
  let whole := cs.takeWhile Char.isDigit
  let rest := cs.dropWhile Char.isDigit
  let (fraction, rest) :=
    match rest with
    | '.' :: rest => (rest.takeWhile Char.isDigit, rest.dropWhile Char.isDigit)
    | rest => ([], rest)
  if whole.isEmpty && fraction.isEmpty then none
  else
    let value (exponent : Int) : Decimal :=
      ⟨Nat.ofDigitChars 10 (whole ++ fraction) 0, exponent - fraction.length⟩
    match rest with
    | [] => some (value 0)
    | e :: rest => if e = 'e' || e = 'E' then (exponent? rest).map value else none

/-- The magnitude that a numeral denotes. The sign is dropped, since whether a number fits does not
depend on it. -/
def parse? (cs : List Char) : Option Decimal :=
  magnitude? (splitSign cs).2

/-! ### Comparison -/

/-- The number lies below `bound`, a number with at most `digits` digits. Where the position of the
first digit decides, no power is computed. -/
def below (d : Decimal) (bound digits : Nat) : Bool :=
  let position : Int := (Nat.toDigits 10 d.coefficient).length + d.exponent
  if d.coefficient = 0 || position ≤ 0 then true
  else if position > digits then false
  else if d.exponent < 0 then d.coefficient < bound * Nat.pow 10 (-d.exponent).toNat
  else d.coefficient * Nat.pow 10 d.exponent.toNat < bound

/-- Half a unit above the largest number of 32 bits. A number from here on is rounded to infinity.
-/
def singleBound : Nat :=
  (Nat.pow 2 25 - 1) * Nat.pow 2 103

/-- Half a unit above the largest number of 64 bits. A number from here on is rounded to infinity.
-/
def doubleBound : Nat :=
  (Nat.pow 2 54 - 1) * Nat.pow 2 970

/-- The number is finite when rounded to 32 bits. The bound has 39 digits, which spares the powers
of large exponents. -/
def isFiniteSingle (d : Decimal) : Bool :=
  d.below singleBound 39

/-- The number is finite when rounded to 64 bits. The bound has 309 digits, which spares the powers
of large exponents. -/
def isFiniteDouble (d : Decimal) : Bool :=
  d.below doubleBound 309

end Decimal

end StaticWiring
