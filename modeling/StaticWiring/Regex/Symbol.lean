import StaticWiring.Regex.Bracket

/-!
# Symbols of regular expressions

The text of a regular expression is a sequence of symbols: characters and sets of them, requirements
on the position, the bar between alternatives, numbers of repetitions, parentheses and settings.

## Main definitions

* `Regex.Symbol` — the symbols.
* `Regex.scanCount?`, `Regex.scanGroup?`, `Regex.scanSymbol?` — the symbol at the start of a text.
* `Regex.symbols?` — the symbols of a text.
-/

namespace StaticWiring.Regex

/-- A symbol of a regular expression. Literals are left to the parser, as their meaning depends on
the settings. -/
inductive Symbol where
  /-- A character or a backslash with what follows it. -/
  | escape (e : Escape)
  /-- A set in brackets. -/
  | set (term : SetTerm)
  /-- The dot. -/
  | dot
  /-- The circumflex. -/
  | caret
  /-- The dollar sign. -/
  | dollar
  /-- The bar between alternatives. -/
  | bar
  /-- A number of repetitions of what stands before, of which a question mark behind it prefers the
  other end. -/
  | count (least : Nat) (most : Option Nat) (isMarked : Bool)
  /-- The start of a group that keeps its text and may have a name. -/
  | openGroup (name : Option String)
  /-- The start of a group with settings of its own. -/
  | openScope (change : Change)
  /-- The end of a group. -/
  | closeGroup
  /-- Settings for the rest of the group. -/
  | setting (change : Change)
deriving Inhabited

/-! ### Repetitions -/

/-- A number of thirty-two bits between white space. Blanks around it are allowed whether or not the
text is spaced. -/
def scanNumber? (spaced : Bool) (cs : List Char) : Option (Nat × List Char) :=
  let (digits, rest) := scanAllVisible spaced Char.isDigit (Text.trimStart cs)
  let n := Nat.ofDigitChars 10 digits 0
  if digits.isEmpty || n ≥ UInt32.size then none else some (n, Text.trimStart rest)

/-- A number of repetitions, with the question mark that may stand behind it. The question mark is
part of the symbol. -/
def scanMark (least : Nat) (most : Option Nat) : List Char → Symbol × List Char
  | '?' :: rest => (.count least most true, rest)
  | rest => (.count least most false, rest)

/-- A number of repetitions, behind the opening brace. It may be a single number, a least number, or
a range whose end is not below its start. -/
def scanCount? (spaced : Bool) (cs : List Char) : Option (Symbol × List Char) := do
  let close (least : Nat) (most : Option Nat) (rest : List Char) : Option (Symbol × List Char) :=
    some (scanMark least most (skipSpace spaced rest))
  let (least, rest) ← scanNumber? spaced cs
  match rest with
  | '\x7d' :: rest => close least (some least) rest
  | ',' :: rest =>
    match skipSpace spaced rest with
    | '\x7d' :: rest => close least none rest
    | rest =>
      match ← scanNumber? spaced rest with
      | (most, '\x7d' :: rest) => if least ≤ most then close least (some most) rest else none
      | _ => none
  | _ => none

/-! ### Groups -/

/-- The text can be the name of a group. It starts with a letter or an underscore. -/
def isGroupName : List Char → Bool
  | [] => false
  | c :: cs =>
    (c == '_' || Text.isAlphabetic c) &&
      cs.all fun c => c == '_' || c == '.' || c == '[' || c == ']' || Text.isAlphabetic c ||
        Text.isNumber c

/-- The start of a group with a name, behind the opening angle. The closing angle ends the name, and
there has to be one. -/
def scanNamed? (cs : List Char) : Option (Symbol × List Char) :=
  let name := cs.takeWhile (· != '>')
  match cs.dropWhile (· != '>') with
  | _ :: rest =>
    if isGroupName name then some (.openGroup (some (String.ofList name)), rest) else none
  | [] => none

/-- The start of a group or settings, behind the opening parenthesis. Groups that look ahead or
behind are refused. -/
def scanGroup? (spaced : Bool) (cs : List Char) : Option (Symbol × List Char) :=
  match skipSpace spaced cs with
  | '?' :: 'P' :: '<' :: rest => scanNamed? rest
  | '?' :: '<' :: rest => scanNamed? rest
  | '?' :: rest =>
    let isEnd (c : Char) : Bool := c == ':' || c == ')'
    let letters := rest.takeWhile (!isEnd ·)
    match rest.dropWhile (!isEnd ·) with
    | ':' :: rest => (Change.ofLetters? true [] letters).map fun change => (.openScope change, rest)
    | _ :: rest =>
      if letters.isEmpty then none
      else (Change.ofLetters? true [] letters).map fun change => (.setting change, rest)
    | [] => none
  | rest => some (.openGroup none, rest)

/-! ### Texts -/

/-- The symbol that starts with a character, with what follows it. The first number bounds the steps
inside a bracket. -/
def scanSymbol? (steps : Nat) (spaced : Bool) (c : Char) (cs : List Char) :
    Option (Symbol × List Char) :=
  match c with
  | '.' => some (.dot, cs)
  | '^' => some (.caret, cs)
  | '$' => some (.dollar, cs)
  | '|' => some (.bar, cs)
  | ')' => some (.closeGroup, cs)
  | '(' => scanGroup? spaced cs
  | '*' => some (scanMark 0 none cs)
  | '+' => some (scanMark 1 none cs)
  | '?' => some (scanMark 0 (some 1) cs)
  | '\x7b' => scanCount? spaced cs
  | '[' => (scanSet? steps spaced cs).map fun (term, rest) => (.set term, rest)
  | '\\' => (scanEscape? spaced cs).map fun (e, rest) => (.escape e, rest)
  | c => some (.escape (.literal c false), cs)

/-- Whether the text is spaced behind a change of settings. A change that does not mention the
setting leaves it as it is. -/
def spacedAfter (spaced : Bool) (change : Change) : Bool :=
  (change.lookup .spaced).getD spaced

/-- The symbols of a text, which is spaced as it says for the open groups, the innermost first. The
first number bounds the steps. -/
def scanSymbols? : (steps : Nat) → (spaced : Bool) → (outer : List Bool) → List Char →
    Option (List Symbol)
  | steps, spaced, outer, cs =>
    match steps, skipSpace spaced cs with
    | _, [] => some []
    | 0, _ :: _ => none
    | steps + 1, c :: cs => do
      let (symbol, rest) ← scanSymbol? (steps + 1) spaced c cs
      let symbols ←
        match symbol, outer with
        | .openGroup _, _ => scanSymbols? steps spaced (spaced :: outer) rest
        | .openScope change, _ =>
          scanSymbols? steps (spacedAfter spaced change) (spaced :: outer) rest
        | .setting change, _ => scanSymbols? steps (spacedAfter spaced change) outer rest
        | .closeGroup, spaced :: outer => scanSymbols? steps spaced outer rest
        | _, _ => scanSymbols? steps spaced outer rest
      some (symbol :: symbols)

/-- The symbols of a text. Every step reads a character at least, so that there are as many steps as
characters. -/
def symbols? (text : List Char) : Option (List Symbol) :=
  scanSymbols? text.length false [] text

end StaticWiring.Regex
