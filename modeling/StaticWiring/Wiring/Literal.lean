import StaticWiring.ClassPath
import StaticWiring.Decimal
import StaticWiring.Text.Letter

/-!
# Literals

A value that is given as text becomes a literal of the type of its injection point, if the text is
one: any text for strings, words for truth values, integers within the bounds of their type, finite
decimal numerals, a single character, or the name of an enum constant. All but strings and
characters may stand between white space.

## Main definitions

* `Literal` — literals.
* `Literal.integer?` — the integer that a text denotes.
* `Literal.ofText?` — the literal of a type that a text denotes.
-/

namespace StaticWiring

/-- A value that the generated code spells out. Numbers with a fraction are kept as written, as the
compiler reads them again. -/
inductive Literal where
  /-- A string. -/
  | string (value : String)
  /-- A truth value. -/
  | bool (value : Bool)
  /-- An integer of at most 32 bits. -/
  | int (value : Int)
  /-- An integer of 64 bits. -/
  | long (value : Int)
  /-- A floating-point number of 32 bits as written. -/
  | float (numeral : String)
  /-- A floating-point number of 64 bits as written. -/
  | double (numeral : String)
  /-- A character. -/
  | char (value : Char)
  /-- A constant of an enum. -/
  | enumConstant (type constant : String)
deriving DecidableEq, Inhabited

namespace Literal

/-! ### Numbers -/

/-- The integer that a text denotes: an optional sign and decimal digits. Blanks are not allowed,
and neither are other bases. -/
def integer? (cs : List Char) : Option Int :=
  let (negative, digits) := Decimal.splitSign cs
  if digits.isEmpty || !digits.all Char.isDigit then none
  else
    let n : Int := Nat.ofDigitChars 10 digits 0
    some (if negative then -n else n)

/-- The integer fits into so many bits, one of them for the sign. There is one more below zero than
above it. -/
def fits (bits : Nat) (n : Int) : Bool :=
  let bound : Int := Nat.pow 2 (bits - 1)
  n < bound && -bound ≤ n

/-- The integer of so many bits that a text denotes. There is none if the number does not fit. -/
def bounded? (bits : Nat) (text : String) : Option Int :=
  (integer? text.toList).filter (fits bits)

/-- The text is a decimal numeral that satisfies `p`. The sign plays no part in it. -/
def isNumeral (p : Decimal → Bool) (text : String) : Bool :=
  (Decimal.parse? text.toList).any p

/-! ### Words -/

/-- The truth value that a word denotes in any case. Letters of ASCII only are compared up to their
case. -/
def truth? (word : String) : Option Bool :=
  match String.ofList (word.toList.map Char.toLower) with
  | "true" => some true
  | "yes" => some true
  | "on" => some true
  | "false" => some false
  | "no" => some false
  | "off" => some false
  | _ => none

/-- The only character of a text. There is none for the empty text. -/
def onlyChar? (text : String) : Option Char :=
  match text.toList with
  | [c] => some c
  | _ => none

/-- The text can be the name of an enum constant. Whether the enum has such a constant is not known.
-/
def isConstantName (text : String) : Bool :=
  match text.toList with
  | [] => false
  | c :: cs =>
    (Text.isAlphabetic c || c == '_') &&
      cs.all fun c => Text.isAlphabetic c || Text.isNumber c || c == '_'

/-! ### Types -/

/-- The kinds of types that have literals. Primitive types and the classes that hold their values
belong to the same family. -/
inductive Family where
  /-- Strings and types that hold them. -/
  | strings
  /-- Truth values. -/
  | truths
  /-- Integers of so many bits, at most 32. -/
  | ints (bits : Nat)
  /-- Integers of 64 bits. -/
  | longs
  /-- Floating-point numbers of 32 bits. -/
  | floats
  /-- Floating-point numbers of 64 bits. -/
  | doubles
  /-- Characters. -/
  | chars
deriving DecidableEq

/-- The family of a type, enums apart. Types without a family have no literals, unless they are
enums. -/
def family? : (type : String) → Option Family
  | "java.lang.String" => some .strings
  | "java.lang.Object" => some .strings
  | "java.lang.CharSequence" => some .strings
  | "boolean" => some .truths
  | "java.lang.Boolean" => some .truths
  | "int" => some (.ints 32)
  | "java.lang.Integer" => some (.ints 32)
  | "short" => some (.ints 16)
  | "java.lang.Short" => some (.ints 16)
  | "byte" => some (.ints 8)
  | "java.lang.Byte" => some (.ints 8)
  | "long" => some .longs
  | "java.lang.Long" => some .longs
  | "float" => some .floats
  | "java.lang.Float" => some .floats
  | "double" => some .doubles
  | "java.lang.Double" => some .doubles
  | "char" => some .chars
  | "java.lang.Character" => some .chars
  | _ => none

/-- The literal of a family that a text denotes. Strings and characters are taken as they are, and
everything else is trimmed first. -/
def ofFamily? (family : Family) (text : String) : Option Literal :=
  let trimmed := Text.trim text
  match family with
  | .strings => some (.string text)
  | .truths => (truth? trimmed).map .bool
  | .ints bits => (bounded? bits trimmed).map .int
  | .longs => (bounded? 64 trimmed).map .long
  | .floats => if isNumeral Decimal.isFiniteSingle trimmed then some (.float trimmed) else none
  | .doubles => if isNumeral Decimal.isFiniteDouble trimmed then some (.double trimmed) else none
  | .chars => (onlyChar? text).map .char

/-- The literal of a type that a text denotes. For an enum it is one of its constants by name. -/
def ofText? (cp : ClassPath) (type text : String) : Option Literal :=
  match family? type with
  | some family => ofFamily? family text
  | none =>
    let trimmed := Text.trim text
    if cp.kind? type == some .enumKind && isConstantName trimmed then
      some (.enumConstant type trimmed)
    else none

end Literal

end StaticWiring
