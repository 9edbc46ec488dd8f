import StaticWiring.Regex.Size
import StaticWiring.Regex.Symbol

/-!
# Reading regular expressions

The symbols of a regular expression are read from left to right, with a stack of the groups that are
open. A number of repetitions belongs to what stands directly before it. Settings hold up to the end
of their group. An expression that is nested too deep, or for which the machine is too large, is
refused.

## Main definitions

* `Regex.Nested` — an expression with the depth of what it was read from.
* `Regex.Group` — an open group.
* `Regex.ofSymbols?` — the expression of a sequence of symbols.
* `Regex.parse?` — the expression of a text.
-/

namespace StaticWiring.Regex

/-! ### Nesting -/

/-- An expression with the depth of what it was read from. Sequences, alternatives, groups,
repetitions and brackets stand around what they are made of; settings are part of a sequence and
match the empty text. -/
structure Nested where
  /-- The expression. -/
  regex : Regex := .empty
  /-- How deep it is nested. -/
  depth : Nat := 0
  /-- It stands for settings, which cannot be repeated. -/
  isSetting : Bool := false
deriving Inhabited

/-- The greatest depth of an expression. It is the bound beyond which a text is refused, however
short it is. -/
def maxDepth : Nat :=
  250

namespace Nested

/-- One more than the depth of what is nested deepest. It is one for no items at all. -/
def depthAround (items : List Nested) : Nat :=
  (items.map depth).foldl max 0 + 1

/-- Items behind each other. A single item stands alone, and is no deeper than it was. -/
def sequence : List Nested → Nested
  | [item] => { item with isSetting := false }
  | [] => {}
  | items => { regex := Regex.sequence (items.map regex), depth := depthAround items }

/-- One of several items. A single item stands alone, and is no deeper than it was. -/
def anyOf : List Nested → Nested
  | [item] => item
  | items => { regex := ofAlternatives (items.map regex), depth := depthAround items }

end Nested

/-! ### Single symbols -/

/-- The expression for a character. Letters stand for both of their cases if the settings say so. -/
def Settings.literal (settings : Settings) (c : Char) : Regex :=
  if settings.has .unicode || c.toNat < 0x80 then ofSet (settings.closeUnderCase (.single c))
  else Regex.literal [c]

/-- The expression for a position of a word. What belongs to a word depends on the settings, as do
the classes of letters. -/
def Settings.wordEdge (settings : Settings) (edge : WordEdge) : Regex :=
  .anchor (.word edge (LetterClass.word.set settings))

/-- The expression for an escape. A byte beyond ASCII and a negated class have none if classes do
not go beyond ASCII. -/
def Settings.escape? (settings : Settings) : Escape → Option Regex
  | .literal c asByte =>
    if asByte && !settings.has .unicode && c.toNat ≥ 0x80 then none else some (settings.literal c)
  | .letterClass negated s => (settings.negate? negated (s.set settings)).map ofSet
  | .startText => some (.anchor .startText)
  | .endText => some (.anchor .endText)
  | .word edge => some (settings.wordEdge edge)

/-- The expression for the dot, which goes beyond ASCII. It is every character but those that end a
line, unless it stands for these as well. -/
def Settings.dot? (settings : Settings) : Option Regex :=
  let ends : List (Nat × Nat) :=
    if settings.has .dotNewline then []
    else if settings.has .carriageReturn then [(0xA, 0xA), (0xD, 0xD)]
    else [(0xA, 0xA)]
  (settings.negate? true ⟨ends⟩).map ofSet

/-- The expression for the circumflex. It stands for the start of every line if the settings say so.
-/
def Settings.caret (settings : Settings) : Regex :=
  .anchor (if settings.has .manyLines then .startLine (settings.has .carriageReturn)
    else .startText)

/-- The expression for the dollar sign. It stands for the end of every line if the settings say so.
-/
def Settings.dollar (settings : Settings) : Regex :=
  .anchor (if settings.has .manyLines then .endLine (settings.has .carriageReturn) else .endText)

/-! ### Groups -/

/-- A group that is open. Settings that change inside it are forgotten when it is closed. -/
structure Group where
  /-- The number under which its text is kept. -/
  number : Option Nat := none
  /-- The settings in force. -/
  settings : Settings := {}
  /-- The alternatives before the last bar, the last first. -/
  alternatives : List Nested := []
  /-- The items since the last bar, the last first. -/
  items : List Nested := []

namespace Group

/-- The content of the group. The alternatives are put back into the order of the text. -/
def content (g : Group) : Nested :=
  Nested.anyOf (Nested.sequence g.items.reverse :: g.alternatives).reverse

/-- The group as an item. It is one deeper than its content, also if its text is not kept. -/
def close (g : Group) : Nested where
  regex :=
    match g.number with
    | some n => .group n g.content.regex
    | none => g.content.regex
  depth := g.content.depth + 1

/-- The group with one more item. The order of the items is restored when the group is closed. -/
def add (g : Group) (item : Nested) : Group :=
  { g with items := item :: g.items }

/-- The group with its last item repeated. A mark prefers few repetitions, or many if the settings
prefer few. -/
def repeatLast? (g : Group) (least : Nat) (most : Option Nat) (isMarked : Bool) : Option Group :=
  match g.items with
  | item :: items =>
    if item.isSetting then none
    else
      let fewFirst := isMarked != g.settings.has .preferLeast
      let repeatedItem : Nested :=
        { regex := repeated fewFirst item.regex least most, depth := item.depth + 1 }
      some { g with items := repeatedItem :: items }
  | [] => none

/-- The group behind a bar. The settings stay those that are in force. -/
def nextAlternative (g : Group) : Group :=
  { g with alternatives := Nested.sequence g.items.reverse :: g.alternatives, items := [] }

/-- The group with one more symbol that neither opens nor closes one. Any other symbol is dealt with
where the open groups are known. -/
def read? (g : Group) : Symbol → Option Group
  | .escape e => (g.settings.escape? e).map fun r => g.add { regex := r }
  | .set term =>
    (term.set? g.settings).map fun s => g.add { regex := ofSet s, depth := term.depth }
  | .dot => g.settings.dot?.map fun r => g.add { regex := r }
  | .caret => some (g.add { regex := g.settings.caret })
  | .dollar => some (g.add { regex := g.settings.dollar })
  | .bar => some g.nextAlternative
  | .count least most isMarked => g.repeatLast? least most isMarked
  | .setting change =>
    some ({ g with settings := g.settings.apply change }.add { isSetting := true })
  | .openGroup _ => none
  | .openScope _ => none
  | .closeGroup => none

end Group

/-! ### Texts -/

/-- The expression of the symbols inside the groups `outer`. The names of groups are taken, and so
are the numbers up to `kept`. -/
def readSymbols? (outer : List Group) (names : List String) (kept : Nat) (g : Group) :
    List Symbol → Option Nested
  | [] => if outer.isEmpty then some g.content else none
  | .openGroup name :: symbols =>
    if name.any names.contains then none
    else
      let inner : Group := { number := some (kept + 1), settings := g.settings }
      readSymbols? (g :: outer) (name.toList ++ names) (kept + 1) inner symbols
  | .openScope change :: symbols =>
    readSymbols? (g :: outer) names kept { settings := g.settings.apply change } symbols
  | .closeGroup :: symbols =>
    match outer with
    | [] => none
    | parent :: outer => readSymbols? outer names kept (parent.add g.close) symbols
  | symbol :: symbols =>
    match g.read? symbol with
    | some g => readSymbols? outer names kept g symbols
    | none => none

/-- The expression of a sequence of symbols. The whole text is like a group without number. -/
def ofSymbols? (symbols : List Symbol) : Option Nested :=
  readSymbols? [] [] 0 {} symbols

/-- The expression of a text. A text is refused if it is nested too deep or leads to a machine that
is too large. -/
def parse? (text : List Char) : Option Regex := do
  let nested ← symbols? text >>= ofSymbols?
  if nested.depth ≤ maxDepth && nested.regex.fits then some nested.regex else none

end StaticWiring.Regex
