import StaticWiring.Json.Basic

/-!
# JSON tokens

A JSON text is a sequence of tokens separated by blanks, tabs, line feeds and carriage returns. A
string is a text if the two halves of every surrogate pair are written next to each other in it. A
control character below the space stands in no string.

## Main definitions

* `Json.Token` — punctuation, strings, numbers and the three names.
* `Json.Token.scanUnits`, `Json.Token.joinUnits` — a string up to its closing quote, and its
  characters.
* `Json.Token.isNumeral` — the form of numbers.
* `Json.Token.scan` — the tokens of a text.
-/

namespace StaticWiring.Json

/-- A token of JSON text. Strings are read to the end here, so that no other character of the text
matters later. -/
inductive Token where
  /-- An opening bracket. -/
  | openArray
  /-- A closing bracket. -/
  | closeArray
  /-- An opening brace. -/
  | openObject
  /-- A closing brace. -/
  | closeObject
  /-- A comma. -/
  | comma
  /-- A colon. -/
  | colon
  /-- The name `null`, a truth value or a number. -/
  | scalar (value : Json)
  /-- A string, with its text if it is one. -/
  | string (text : Option String)

namespace Token

/-! ### Strings -/

/-- The value of a hexadecimal digit. Either case of the letters will do. -/
def hexValue? (c : Char) : Option Nat :=
  if '0' ≤ c ∧ c ≤ '9' then some (c.toNat - '0'.toNat)
  else if 'a' ≤ c ∧ c ≤ 'f' then some (c.toNat - 'a'.toNat + 10)
  else if 'A' ≤ c ∧ c ≤ 'F' then some (c.toNat - 'A'.toNat + 10)
  else none

/-- The number written by four hexadecimal digits. No sign and no blank may stand between the
digits. -/
def hexUnit? (a b c d : Char) : Option Nat := do
  let a ← hexValue? a
  let b ← hexValue? b
  let c ← hexValue? c
  let d ← hexValue? d
  return ((a * 16 + b) * 16 + c) * 16 + d

/-- The number is a leading half of a surrogate pair. It denotes no character by itself. -/
def isLeading (n : Nat) : Bool :=
  0xD800 ≤ n && n ≤ 0xDBFF

/-- The number is a trailing half of a surrogate pair. It denotes no character by itself. -/
def isTrailing (n : Nat) : Bool :=
  0xDC00 ≤ n && n ≤ 0xDFFF

/-- The character that a one-letter escape stands for. Any other letter makes the text no JSON. -/
def shortEscape? : Char → Option Char
  | '"' => some '"'
  | '\\' => some '\\'
  | '/' => some '/'
  | 'b' => some '\x08'
  | 'f' => some '\x0c'
  | 'n' => some '\n'
  | 'r' => some '\r'
  | 't' => some '\t'
  | _ => none

/-- What a string is written with: characters and code units of UTF-16 in hexadecimal digits. The
two are kept apart, since only code units can be halves of a surrogate pair. -/
inductive Unit16 where
  /-- A character, as itself or by a one-letter escape. -/
  | char (c : Char)
  /-- A code unit. -/
  | code (n : Nat)

/-- What stands in a string up to its closing quote, and what follows the quote. Control characters
have to be escaped, so that a line feed never stands in a string. -/
def scanUnits : List Char → Option (List Unit16 × List Char)
  | [] => none
  | '"' :: rest => some ([], rest)
  | '\\' :: 'u' :: a :: b :: c :: d :: rest =>
    match hexUnit? a b c d, scanUnits rest with
    | some unit, some (units, after) => some (.code unit :: units, after)
    | _, _ => none
  | '\\' :: e :: rest =>
    match shortEscape? e, scanUnits rest with
    | some c, some (units, after) => some (.char c :: units, after)
    | _, _ => none
  | c :: rest =>
    if c = '\\' || c.toNat < 0x20 then none
    else match scanUnits rest with
      | some (units, after) => some (.char c :: units, after)
      | none => none

/-- What follows a string is shorter than the string's text. It is what makes the scanner end. -/
theorem length_lt_of_scanUnits {cs after : List Char} {units : List Unit16}
    (h : scanUnits cs = some (units, after)) : after.length < cs.length := by
  fun_induction scanUnits cs generalizing units after <;>
    simp only [Option.some.injEq, Prod.mk.injEq, reduceCtorEq] at h <;>
    obtain ⟨-, rfl⟩ := h <;> simp only [List.length_cons] <;> grind

/-- The characters that code units stand for, where the halves of surrogate pairs are neighbours. A
half without its other half denotes no character. -/
def joinUnits : List Unit16 → Option (List Char)
  | [] => some []
  | .char c :: units => (joinUnits units).map (c :: ·)
  | .code n :: units =>
    if isTrailing n then none
    else if isLeading n then
      match units with
      | .code m :: units =>
        if isTrailing m then
          (joinUnits units).map (Char.ofNat (0x10000 + (n - 0xD800) * 0x400 + (m - 0xDC00)) :: ·)
        else none
      | _ => none
    else (joinUnits units).map (Char.ofNat n :: ·)

/-! ### Numbers -/

/-- The characters that numbers are written with. As many of them as stand together are read as one
numeral, whose form is then checked. -/
def isNumeralChar (c : Char) : Bool :=
  c.isDigit || c = '-' || c = '+' || c = '.' || c = 'e' || c = 'E'

/-- An optional exponent: `e` or `E`, an optional sign, and digits. Nothing may follow the digits.
-/
def isExponent : List Char → Bool
  | [] => true
  | e :: rest =>
    (e = 'e' || e = 'E') &&
      match rest with
      | '+' :: digits => !digits.isEmpty && digits.all Char.isDigit
      | '-' :: digits => !digits.isEmpty && digits.all Char.isDigit
      | digits => !digits.isEmpty && digits.all Char.isDigit

/-- An optional fraction, a point and digits, and an optional exponent. Nothing may follow. -/
def isFraction : List Char → Bool
  | '.' :: rest =>
    !(rest.takeWhile Char.isDigit).isEmpty && isExponent (rest.dropWhile Char.isDigit)
  | rest => isExponent rest

/-- A number without its sign: digits without a leading zero, or a zero, then the fraction and the
exponent. -/
def isMagnitude : List Char → Bool
  | '0' :: rest => isFraction rest
  | c :: rest => c.isDigit && isFraction (rest.dropWhile Char.isDigit)
  | [] => false

/-- The form of a number. A minus may stand in front, but no plus. -/
def isNumeral : List Char → Bool
  | '-' :: magnitude => isMagnitude magnitude
  | magnitude => isMagnitude magnitude

/-- The number that a numeral denotes, an integer where it is written as one. A negative zero is no
integer, since an integer has no sign when it is zero. -/
def numeralValue (cs : List Char) : Json :=
  if cs = ['-', '0'] then .fraction "-0"
  else match cs with
    | '-' :: digits =>
      if digits.all Char.isDigit then .number (-(Nat.ofDigitChars 10 digits 0 : Int))
      else .fraction (String.ofList cs)
    | digits =>
      if digits.all Char.isDigit then .number (Nat.ofDigitChars 10 digits 0)
      else .fraction (String.ofList cs)

/-! ### Texts -/

/-- The characters between tokens. Other white space of Unicode is not allowed between tokens. -/
def isSpace (c : Char) : Bool :=
  c = ' ' || c = '\n' || c = '\t' || c = '\r'

/-- The tokens of a text. There are none if anything in the text is no token, even behind a complete
value. -/
def scan (cs : List Char) : Option (List Token) :=
  match cs with
  | [] => some []
  | '[' :: rest => (scan rest).map (openArray :: ·)
  | ']' :: rest => (scan rest).map (closeArray :: ·)
  | '\x7b' :: rest => (scan rest).map (openObject :: ·)
  | '\x7d' :: rest => (scan rest).map (closeObject :: ·)
  | ',' :: rest => (scan rest).map (comma :: ·)
  | ':' :: rest => (scan rest).map (colon :: ·)
  | 'n' :: 'u' :: 'l' :: 'l' :: rest => (scan rest).map (scalar .null :: ·)
  | 't' :: 'r' :: 'u' :: 'e' :: rest => (scan rest).map (scalar (.bool true) :: ·)
  | 'f' :: 'a' :: 'l' :: 's' :: 'e' :: rest => (scan rest).map (scalar (.bool false) :: ·)
  | '"' :: rest =>
    match h : scanUnits rest with
    | none => none
    | some (units, after) =>
      have := length_lt_of_scanUnits h
      (scan after).map (string ((joinUnits units).map String.ofList) :: ·)
  | c :: rest =>
    if isSpace c then scan rest
    else
      let numeral := c :: rest.takeWhile isNumeralChar
      have := (List.dropWhile_sublist isNumeralChar (l := rest)).length_le
      if isNumeral numeral then
        (scan (rest.dropWhile isNumeralChar)).map (scalar (numeralValue numeral) :: ·)
      else none
termination_by cs.length

end Token

end StaticWiring.Json
