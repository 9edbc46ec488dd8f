import StaticWiring.Json.Token
import StaticWiring.Regex.Basic
import StaticWiring.Regex.SetTerm

/-!
# Escapes of regular expressions

What a backslash makes of what follows it: a character, a class of characters, or a requirement on
the position. Where a regular expression is spaced, white space and comments may stand between the
parts of its text.

## Main definitions

* `Regex.skipSpace`, `Regex.scanVisible` — what stands between the parts of a spaced text.
* `Regex.Escape` — the escapes.
* `Regex.scanEscape?` — the escape behind a backslash.
-/

namespace StaticWiring.Regex

/-! ### Space -/

/-- The text behind white space and comments, which a number sign starts and a line feed ends. A
comment that no line feed ends goes on to the end of the text. -/
def skipBlanks : (inComment : Bool) → List Char → List Char
  | _, [] => []
  | true, c :: cs => skipBlanks (c != '\n') cs
  | false, c :: cs =>
    if Text.isBlank c then skipBlanks false cs
    else if c = '#' then skipBlanks true cs
    else c :: cs

/-- The text behind white space and comments, if they mean nothing. Otherwise white space is like
any other character. -/
def skipSpace (spaced : Bool) (cs : List Char) : List Char :=
  if spaced then skipBlanks false cs else cs

/-- The characters that satisfy `p`, at most `limit` if there is a limit, with space before, between
and behind them. -/
def scanVisible (spaced : Bool) (p : Char → Bool) : (inComment : Bool) → (limit : Option Nat) →
    List Char → List Char × List Char
  | _, _, [] => ([], [])
  | true, limit, c :: cs => scanVisible spaced p (c != '\n') limit cs
  | false, limit, c :: cs =>
    if spaced && Text.isBlank c then scanVisible spaced p false limit cs
    else if spaced && c = '#' then scanVisible spaced p true limit cs
    else if limit = some 0 || !p c then ([], c :: cs)
    else
      let (found, rest) := scanVisible spaced p false (limit.map (· - 1)) cs
      (c :: found, rest)

/-- All characters that satisfy `p`, with space before, between and behind them. Without such space
they stand right behind each other. -/
def scanAllVisible (spaced : Bool) (p : Char → Bool) (cs : List Char) : List Char × List Char :=
  scanVisible spaced p false none cs

/-! ### Escapes -/

/-- What a backslash makes of what follows it. The forms are the same inside and outside of
brackets, but only some of them are allowed inside. -/
inductive Escape where
  /-- A character; as a byte it is one of ASCII if the classes do not go beyond it. -/
  | literal (c : Char) (asByte : Bool)
  /-- A class. -/
  | letterClass (negated : Bool) (letterClass : LetterClass)
  /-- The start of the text. -/
  | startText
  /-- The end of the text. -/
  | endText
  /-- A position of a word. -/
  | word (edge : WordEdge)
deriving DecidableEq

/-- The character stands for itself behind a backslash. Letters and digits may get a meaning later,
and so do not stand for themselves. -/
def isEscapable (c : Char) : Bool :=
  c.toNat < 0x80 && !c.isAlphanum && c != '<' && c != '>'

/-- What a single character behind a backslash means. Other characters of ASCII that are neither
letters nor digits stand for themselves. -/
def Escape.ofChar? : Char → Option Escape
  | 'a' => some (.literal '\x07' false)
  | 'f' => some (.literal '\x0c' false)
  | 't' => some (.literal '\t' false)
  | 'n' => some (.literal '\n' false)
  | 'r' => some (.literal '\r' false)
  | 'v' => some (.literal '\x0b' false)
  | 'd' => some (.letterClass false .digit)
  | 'w' => some (.letterClass false .word)
  | 's' => some (.letterClass false .blank)
  | 'D' => some (.letterClass true .digit)
  | 'W' => some (.letterClass true .word)
  | 'S' => some (.letterClass true .blank)
  | 'A' => some .startText
  | 'z' => some .endText
  | 'b' => some (.word .boundary)
  | 'B' => some (.word .inner)
  | '<' => some (.word .first)
  | '>' => some (.word .last)
  | c => if isEscapable c then some (.literal c false) else none

/-! ### Code points -/

/-- The number of hexadecimal digits behind a letter that announces a code point. In braces the
number of digits is free. -/
def codeDigits? : Char → Option Nat
  | 'x' => some 2
  | 'u' => some 4
  | 'U' => some 8
  | _ => none

/-- The character is a hexadecimal digit. Letters may be small or capital. -/
def isHexDigit (c : Char) : Bool :=
  (Json.Token.hexValue? c).isSome

/-- The character with a code point in hexadecimal digits. There is none for surrogates and for
numbers that are too large. -/
def codePoint? (digits : List Char) : Option Char := do
  let values ← digits.mapM Json.Token.hexValue?
  let n := values.foldl (fun n d => 16 * n + d) 0
  if !digits.isEmpty && n.isValidChar then some (Char.ofNat n) else none

/-- The character whose code point stands at the start of a text, by a fixed number of digits or by
digits in braces. Two digits stand for a byte. -/
def scanCode? (spaced : Bool) (count : Nat) (cs : List Char) : Option (Escape × List Char) :=
  match skipSpace spaced cs with
  | '\x7b' :: cs =>
    match scanAllVisible spaced isHexDigit cs with
    | (digits, '\x7d' :: rest) => (codePoint? digits).map fun c => (.literal c false, rest)
    | _ => none
  | cs =>
    let (digits, rest) := scanVisible spaced isHexDigit false (some count) cs
    if digits.length = count then
      (codePoint? digits).map fun c => (.literal c (count == 2), rest)
    else none

/-! ### Positions of words -/

/-- The positions of words with a name. In braces they are told from the plain position of a word.
-/
def wordEdges : List (String × WordEdge) :=
  [("start", .first), ("end", .last), ("start-half", .firstHalf), ("end-half", .lastHalf)]

/-- The position of a word behind the letter that announces it. What stands in braces is its name,
unless it starts like a number of repetitions. -/
def scanWordEdge? (spaced : Bool) (cs : List Char) : Option (Escape × List Char) :=
  let isNameChar (c : Char) : Bool := c.isAlpha || c == '-'
  match cs with
  | '\x7b' :: inner =>
    match scanAllVisible spaced isNameChar inner with
    | (_, []) => none
    | ([], _) => some (.word .boundary, cs)
    | (name, '\x7d' :: rest) =>
      (wordEdges.lookup (String.ofList name)).map fun edge => (.word edge, rest)
    | _ => none
  | cs => some (.word .boundary, cs)

/-! ### Reading -/

/-- The escape behind a backslash. There is none for letters without a meaning. -/
def scanEscape? (spaced : Bool) : List Char → Option (Escape × List Char)
  | [] => none
  | 'b' :: cs => scanWordEdge? spaced cs
  | c :: cs =>
    match codeDigits? c with
    | some count => scanCode? spaced count cs
    | none => (Escape.ofChar? c).map (·, cs)

end StaticWiring.Regex
