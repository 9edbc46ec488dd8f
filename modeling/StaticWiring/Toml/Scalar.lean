import StaticWiring.Decimal
import StaticWiring.Json.Token

/-!
# Scalars of TOML

Strings stand in one line or in many, between double quotes with escapes or between single quotes
without. All other scalars are words: truth values, integers in four bases, floating-point numbers,
and dates and times. Floating-point numbers are kept as written. A date or a time becomes a record
of one field, which holds its text in the one form that has capital letters, no more than nine
digits behind the point and no zeros at their end.

## Main definitions

* `Toml.scanString?` — the string at the start of a text, with what follows it.
* `Toml.dateTime?` — the form in which a date or a time is kept.
* `Toml.wordValue?` — the value of a word.
-/

namespace StaticWiring.Toml

/-! ### Characters -/

/-- The white space within lines. Line feeds are told apart from it, since they end lines. -/
def isSpace (c : Char) : Bool :=
  c = ' ' || c = '\t'

/-- The characters of comments and strings: no control character but the tab. Characters beyond
ASCII are all among them. -/
def isPrintable (c : Char) : Bool :=
  c = '\t' || (0x20 ≤ c.toNat && c.toNat ≠ 0x7F)

/-- What follows a line's end at the start of a text. A carriage return alone ends no line. -/
def afterNewline? : List Char → Option (List Char)
  | '\n' :: rest => some rest
  | '\r' :: '\n' :: rest => some rest
  | _ => none

/-! ### Strings -/

/-- The character that a one-letter escape stands for. Any other letter makes the text no document.
-/
def shortEscape? : Char → Option Char
  | 'b' => some '\x08'
  | 't' => some '\t'
  | 'n' => some '\n'
  | 'f' => some '\x0c'
  | 'r' => some '\r'
  | '"' => some '"'
  | '\\' => some '\\'
  | _ => none

/-- The character with the code point written by hexadecimal digits. There is none for surrogates
and for numbers that are too large. -/
def hexChar? (digits : List Char) : Option Char := do
  let values ← digits.mapM Json.Token.hexValue?
  let n := values.foldl (fun n d => 16 * n + d) 0
  if n.isValidChar then some (Char.ofNat n) else none

/-- A string with one more character at its front. It fails as soon as either part does. -/
def push (c : Option Char) (scanned : Option (List Char × List Char)) :
    Option (List Char × List Char) := do
  let c ← c
  let (value, rest) ← scanned
  return (c :: value, rest)

/-- A string in one line up to its closing double quote. Escapes may have four or eight digits. -/
def scanBasic : List Char → Option (List Char × List Char)
  | [] => none
  | '"' :: rest => some ([], rest)
  | '\\' :: 'u' :: a :: b :: c :: d :: rest => push (hexChar? [a, b, c, d]) (scanBasic rest)
  | '\\' :: 'U' :: a :: b :: c :: d :: e :: f :: g :: h :: rest =>
    push (hexChar? [a, b, c, d, e, f, g, h]) (scanBasic rest)
  | '\\' :: c :: rest => push (shortEscape? c) (scanBasic rest)
  | c :: rest => if c ≠ '\\' && isPrintable c then push (some c) (scanBasic rest) else none

/-- A string in one line up to its closing single quote. A backslash is a character like any other
there. -/
def scanLiteral : List Char → Option (List Char × List Char)
  | [] => none
  | '\'' :: rest => some ([], rest)
  | c :: rest => if isPrintable c then push (some c) (scanLiteral rest) else none

/-- The end of a string of many lines, if at least three quotes follow each other: up to two more
belong to the string. -/
def closeMany? (quote : Char) (cs : List Char) : Option (Option (List Char × List Char)) :=
  let quotes := cs.takeWhile (· == quote)
  if quotes.length < 3 then none
  else if quotes.length ≤ 5 then some (some (quotes.drop 3, cs.dropWhile (· == quote)))
  else some none

/-- The rest of a line is white space. It is asked behind a backslash, where the end of the line is
then left out. -/
def isLineEnd (cs : List Char) : Bool :=
  (afterNewline? (cs.dropWhile isSpace)).isSome

/-- A string of many lines up to its closing double quotes. Behind a backslash at the end of a line,
`skipping` holds up to the next character that is no white space. -/
def scanManyBasic (skipping : Bool) : List Char → Option (List Char × List Char)
  | [] => none
  | '\r' :: '\n' :: rest =>
    if skipping then scanManyBasic true rest else push (some '\n') (scanManyBasic false rest)
  | '\n' :: rest =>
    if skipping then scanManyBasic true rest else push (some '\n') (scanManyBasic false rest)
  | '\\' :: 'u' :: a :: b :: c :: d :: rest =>
    push (hexChar? [a, b, c, d]) (scanManyBasic false rest)
  | '\\' :: 'U' :: a :: b :: c :: d :: e :: f :: g :: h :: rest =>
    push (hexChar? [a, b, c, d, e, f, g, h]) (scanManyBasic false rest)
  | '\\' :: c :: rest =>
    if isLineEnd (c :: rest) then scanManyBasic true (c :: rest)
    else push (shortEscape? c) (scanManyBasic false rest)
  | c :: rest =>
    if skipping && isSpace c then scanManyBasic true rest
    else match closeMany? '"' (c :: rest) with
      | some closed => closed
      | none => if c ≠ '\\' && isPrintable c then push (some c) (scanManyBasic false rest) else none

/-- A string of many lines up to its closing single quotes. Ends of lines become line feeds, and a
backslash is a character like any other. -/
def scanManyLiteral : List Char → Option (List Char × List Char)
  | [] => none
  | '\r' :: '\n' :: rest => push (some '\n') (scanManyLiteral rest)
  | '\n' :: rest => push (some '\n') (scanManyLiteral rest)
  | c :: rest =>
    match closeMany? '\'' (c :: rest) with
    | some closed => closed
    | none => if isPrintable c then push (some c) (scanManyLiteral rest) else none

/-- The text without a line's end at its start. It is asked behind the three quotes that open a
string of many lines. -/
def dropNewline (cs : List Char) : List Char :=
  (afterNewline? cs).getD cs

/-- The string at the start of a text, if a quote stands there, with what follows the string. Three
quotes open a string of many lines, and two quotes alone are the empty string. -/
def scanString? : List Char → Option (List Char × List Char)
  | '"' :: '"' :: '"' :: rest => scanManyBasic false (dropNewline rest)
  | '"' :: rest => scanBasic rest
  | '\'' :: '\'' :: '\'' :: rest => scanManyLiteral (dropNewline rest)
  | '\'' :: rest => scanLiteral rest
  | _ => none

/-! ### Numbers -/

/-- Digits with single underscores between them, without the underscores. There is none if an
underscore stands at either end, or next to another one. -/
def ungroup? (isDigit : Char → Bool) : List Char → Option (List Char)
  | [] => none
  | [c] => if isDigit c then some [c] else none
  | c :: '_' :: cs => if isDigit c then (ungroup? isDigit cs).map (c :: ·) else none
  | c :: cs => if isDigit c then (ungroup? isDigit cs).map (c :: ·) else none

/-- The character is a digit in some base. Hexadecimal digits may be small or capital. -/
def isDigitOf (base : Nat) (c : Char) : Bool :=
  match Json.Token.hexValue? c with
  | some d => d < base
  | none => false

/-- The number in some base. A sign is not allowed there. -/
def inBase? (base : Nat) (cs : List Char) : Option Nat := do
  let digits ← ungroup? (isDigitOf base) cs
  let values ← digits.mapM Json.Token.hexValue?
  return values.foldl (fun n d => base * n + d) 0

/-- Decimal digits without a zero in front of another digit. A single zero is allowed. -/
def wholeDigits? (cs : List Char) : Option (List Char) := do
  let digits ← ungroup? Char.isDigit cs
  if digits.length > 1 && digits.head? == some '0' then none else some digits

/-- An integer of 64 bits. Other bases are announced by a prefix, and then there is no sign. -/
def integer? (cs : List Char) : Option Json := do
  let n : Int ←
    match cs with
    | '0' :: 'x' :: digits => (inBase? 16 digits).map Int.ofNat
    | '0' :: 'o' :: digits => (inBase? 8 digits).map Int.ofNat
    | '0' :: 'b' :: digits => (inBase? 2 digits).map Int.ofNat
    | _ =>
      let (negative, magnitude) := Decimal.splitSign cs
      (wholeDigits? magnitude).map fun digits =>
        let n : Int := Nat.ofDigitChars 10 digits 0
        if negative then -n else n
  if Int64.minValue.toInt ≤ n ∧ n ≤ Int64.maxValue.toInt then some (.number n) else none

/-- A floating-point number: a whole part, and a fraction or an exponent. Without a minus it is
finite. -/
def float? (cs : List Char) : Option Json := do
  let (negative, magnitude) := Decimal.splitSign cs
  if magnitude = "inf".toList || magnitude = "nan".toList then
    return .fraction (String.ofList cs)
  let isMark (c : Char) : Bool := c == '.' || c == 'e' || c == 'E'
  let whole ← wholeDigits? (magnitude.takeWhile (!isMark ·))
  let plain ←
    match magnitude.dropWhile (!isMark ·) with
    | '.' :: rest => do
      let fraction ← ungroup? Char.isDigit (rest.takeWhile (!isMark ·))
      match rest.dropWhile (!isMark ·) with
      | [] => some (whole ++ '.' :: fraction)
      | '.' :: _ => none
      | _ :: exponent => do
        let (negative, digits) := Decimal.splitSign exponent
        let digits ← ungroup? Char.isDigit digits
        some (whole ++ '.' :: fraction ++ 'e' :: (if negative then ['-'] else []) ++ digits)
    | _ :: exponent => do
      let (negative, digits) := Decimal.splitSign exponent
      let digits ← ungroup? Char.isDigit digits
      some (whole ++ 'e' :: (if negative then ['-'] else []) ++ digits)
    | [] => none
  if negative || (← Decimal.parse? plain).isFiniteDouble then some (.fraction (String.ofList cs))
  else none

/-! ### Dates and times -/

/-- The number written by exactly `count` decimal digits at the start of a text, with what
follows. -/
def fixed? (count : Nat) (cs : List Char) : Option (Nat × List Char) :=
  let digits := cs.take count
  if digits.length = count ∧ digits.all Char.isDigit then
    some (Nat.ofDigitChars 10 digits 0, cs.drop count)
  else none

/-- The text behind a character at its start. There is none if another character stands there. -/
def behind? (c : Char) (cs : List Char) : Option (List Char) :=
  Text.stripStart? [c] cs

/-- The number of days of a month. Leap years are those of the calendar in use today. -/
def daysOfMonth (year month : Nat) : Nat :=
  if month = 2 then
    if year % 4 = 0 ∧ (year % 100 ≠ 0 ∨ year % 400 = 0) then 29 else 28
  else if month = 4 ∨ month = 6 ∨ month = 9 ∨ month = 11 then 30
  else 31

/-- The date at the start of a text, with what follows it. The number of digits is fixed, and the
day has to be in the month. -/
def date? (cs : List Char) : Option (List Char × List Char) := do
  let (year, rest) ← fixed? 4 cs
  let (month, rest) ← fixed? 2 (← behind? '-' rest)
  let (day, rest) ← fixed? 2 (← behind? '-' rest)
  if 1 ≤ month ∧ month ≤ 12 ∧ 1 ≤ day ∧ day ≤ daysOfMonth year month then
    some (cs.take 10, rest)
  else none

/-- The fraction of a second in nanoseconds, cut and without zeros at the end. Further digits are
dropped without rounding. -/
def nanoseconds (digits : List Char) : List Char :=
  match (digits.take 9).reverse.dropWhile (· == '0') with
  | [] => []
  | reversed => '.' :: reversed.reverse

/-- The time at the start of a text, with what follows it. A second may be a leap second. The
fraction may have any number of digits. -/
def time? (cs : List Char) : Option (List Char × List Char) := do
  let (hour, rest) ← fixed? 2 cs
  let (minute, rest) ← fixed? 2 (← behind? ':' rest)
  let (second, rest) ← fixed? 2 (← behind? ':' rest)
  if hour ≤ 23 ∧ minute ≤ 59 ∧ second ≤ 60 then
    match rest with
    | '.' :: fraction =>
      let digits := fraction.takeWhile Char.isDigit
      if digits.isEmpty then none
      else some (cs.take 8 ++ nanoseconds digits, fraction.dropWhile Char.isDigit)
    | _ => some (cs.take 8, rest)
  else none

/-- The distance from universal time that a text denotes, if it denotes one. A zero distance has a
plus, and the letter stands for universal time. -/
def offset? (cs : List Char) : Option (List Char) :=
  match cs with
  | [] => some []
  | ['Z'] => some ['Z']
  | ['z'] => some ['Z']
  | sign :: distance => do
    let (hour, rest) ← fixed? 2 distance
    let (minute, rest) ← fixed? 2 (← behind? ':' rest)
    if (sign = '+' ∨ sign = '-') ∧ hour ≤ 23 ∧ minute ≤ 59 ∧ rest.isEmpty then
      some ((if hour = 0 ∧ minute = 0 then '+' else sign) :: distance)
    else none

/-- The date, the time, or the date with a time that a text denotes, in the one form in which each
is written. Letters and blanks that separate the parts become the letter `T`. -/
def dateTime? (cs : List Char) : Option (List Char) :=
  match date? cs with
  | some (date, []) => some date
  | some (date, separator :: rest) => do
    let (time, rest) ← time? rest
    if separator = 'T' ∨ separator = 't' ∨ separator = ' ' then
      return date ++ 'T' :: time ++ (← offset? rest)
    else none
  | none =>
    match time? cs with
    | some (time, []) => some time
    | _ => none

/-- The key under which a date or a time stands as a record of one field. No record of options has
such a field, so that a date is never taken for options. -/
def dateTimeKey : String :=
  "$__toml_private_datetime"

/-! ### Words -/

/-- The characters that may stand in a word. Numbers, truth values, dates and times are all made of
them. -/
def isWordChar (c : Char) : Bool :=
  c.isAlphanum || c = '+' || c = '-' || c = '.' || c = '_' || c = ':'

/-- The value of a word. A word that is nothing else may be a number. -/
def wordValue? (cs : List Char) : Option Json :=
  if cs = "true".toList then some (.bool true)
  else if cs = "false".toList then some (.bool false)
  else match dateTime? cs with
    | some text => some (.object [(dateTimeKey, .string (String.ofList text))])
    | none => (integer? cs).or (float? cs)

/-- The word at the start of a text with what follows it. A date and a time may be separated by a
blank. -/
def scanWord (cs : List Char) : List Char × List Char :=
  let word := cs.takeWhile isWordChar
  match date? word, cs.dropWhile isWordChar with
  | some (_, []), ' ' :: rest =>
    let time := rest.takeWhile isWordChar
    if (time? time).isSome then (word ++ ' ' :: time, rest.dropWhile isWordChar)
    else (word, ' ' :: rest)
  | _, rest => (word, rest)

end StaticWiring.Toml
