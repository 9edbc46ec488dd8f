import StaticWiring.Regex.Escape
import StaticWiring.Text.Cut

/-!
# Brackets of regular expressions

The text of a set in brackets, read from left to right with a stack of the brackets that are open.

## Main definitions

* `Regex.OpenBracket` — a bracket that is open.
* `Regex.scanRange?`, `Regex.scanPosix?` — the items of a bracket.
* `Regex.scanBracket?` — the term of a bracket.
-/

namespace StaticWiring.Regex

/-! ### Open brackets -/

/-- An open bracket: whether it is negated, the operation to its left if there is any, and the items
since then. -/
structure OpenBracket where
  /-- All other characters are meant. -/
  negated : Bool
  /-- The operation that waits for its second set, with its first. -/
  waiting : Option (SetOperation × SetTerm) := none
  /-- The items so far, the last first. -/
  items : List SetTerm := []

namespace OpenBracket

/-- The bracket with one more item. The order of the items is restored when the bracket is closed.
-/
def add (b : OpenBracket) (item : SetTerm) : OpenBracket :=
  { b with items := item :: b.items }

/-- The term for everything so far. The operation to the left takes the items since then as its
second set. -/
def combined (b : OpenBracket) : SetTerm :=
  match b.waiting with
  | some (o, left) => .operation o left (.union b.items.reverse)
  | none => .union b.items.reverse

/-- The bracket behind an operation. Operations are of equal rank, and work from the left to the
right. -/
def operate (b : OpenBracket) (o : SetOperation) : OpenBracket :=
  { b with waiting := some (o, b.combined), items := [] }

/-- The term of the closed bracket. The negation is of everything in the bracket, its operations
included. -/
def close (b : OpenBracket) : SetTerm :=
  .bracket b.negated b.combined

end OpenBracket

/-- The start of a bracket, behind `[`: a circumflex negates it, hyphens stand for themselves, and
so does a closing bracket that comes first. -/
def openBracket (spaced : Bool) (cs : List Char) : OpenBracket × List Char :=
  let (negated, cs) :=
    match skipSpace spaced cs with
    | '^' :: cs => (true, cs)
    | cs => (false, cs)
  let (hyphens, rest) := scanAllVisible spaced (· == '-') cs
  match hyphens, rest with
  | [], ']' :: rest => ({ negated, items := [.single ']'] }, rest)
  | _, rest => ({ negated, items := hyphens.map .single }, rest)

/-! ### Items -/

/-- One item of a bracket: a single character, if it is one, and the term. Only single characters
can be the ends of a range. -/
def scanItem? (spaced : Bool) : List Char → Option (Option Char × SetTerm × List Char)
  | [] => none
  | '\\' :: cs =>
    match scanEscape? spaced cs with
    | some (.literal c _, rest) => some (some c, .single c, rest)
    | some (.letterClass negated s, rest) => some (none, .letterClass negated s, rest)
    | _ => none
  | c :: cs => some (some c, .single c, cs)

/-- The character behind a hyphen that decides whether it makes a range: the next one, in a spaced
text behind white space and number signs. -/
def peekBehind (spaced : Bool) (cs : List Char) : Option Char :=
  if spaced then
    match cs.dropWhile Text.isBlank with
    | '#' :: rest => (rest.dropWhile Text.isBlank).head?
    | rest => rest.head?
  else cs.head?

/-- An item or a range of a bracket. A hyphen before a closing bracket or another hyphen makes no
range. -/
def scanRange? (spaced : Bool) (cs : List Char) : Option (SetTerm × List Char) := do
  let (first, item, rest) ← scanItem? spaced cs
  match skipSpace spaced rest with
  | [] => none
  | '-' :: behind =>
    if peekBehind spaced behind == some ']' || peekBehind spaced behind == some '-' then
      some (item, '-' :: behind)
    else do
      let (last, _, rest) ← scanItem? spaced (skipSpace spaced behind)
      let first ← first
      let last ← last
      if first ≤ last then some (.range first last, rest) else none
  | rest => some (item, rest)

/-- A class with a name, behind `[:`. The name stands between colons, and a circumflex before it
negates the class. -/
def scanPosix? (cs : List Char) : Option (SetTerm × List Char) :=
  let (negated, cs) :=
    match cs with
    | '^' :: cs => (true, cs)
    | cs => (false, cs)
  match cs.dropWhile (· != ':') with
  | ':' :: ']' :: rest =>
    (CharSet.posix? (String.ofList (cs.takeWhile (· != ':')))).map fun s => (.posix negated s, rest)
  | _ => none

/-! ### Brackets -/

/-- The term of a bracket inside the brackets `outer`, with what follows it. The first number bounds
the steps. -/
def scanBracket? (spaced : Bool) : (steps : Nat) → (outer : List OpenBracket) → OpenBracket →
    List Char → Option (SetTerm × List Char)
  | 0, _, _, _ => none
  | steps + 1, outer, bracket, cs =>
    match skipSpace spaced cs with
    | [] => none
    | ']' :: rest =>
      match outer with
      | [] => some (bracket.close, rest)
      | parent :: outer => scanBracket? spaced steps outer (parent.add bracket.close) rest
    | '&' :: '&' :: rest => scanBracket? spaced steps outer (bracket.operate .intersection) rest
    | '-' :: '-' :: rest => scanBracket? spaced steps outer (bracket.operate .difference) rest
    | '~' :: '~' :: rest =>
      scanBracket? spaced steps outer (bracket.operate .symmetricDifference) rest
    | '[' :: rest =>
      match Text.stripStart? [':'] rest >>= scanPosix? with
      | some (item, rest) => scanBracket? spaced steps outer (bracket.add item) rest
      | none =>
        let (inner, rest) := openBracket spaced rest
        scanBracket? spaced steps (bracket :: outer) inner rest
    | cs =>
      match scanRange? spaced cs with
      | some (item, rest) => scanBracket? spaced steps outer (bracket.add item) rest
      | none => none

/-- The term of a bracket, behind `[`. The first number bounds the steps. There are as many steps as
characters at most. -/
def scanSet? (steps : Nat) (spaced : Bool) (cs : List Char) : Option (SetTerm × List Char) :=
  let (bracket, rest) := openBracket spaced cs
  scanBracket? spaced steps [] bracket rest

end StaticWiring.Regex
