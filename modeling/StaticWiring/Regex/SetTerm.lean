import StaticWiring.Regex.CharSet
import StaticWiring.Regex.Setting

/-!
# Terms for sets of characters

How a regular expression writes a set: classes, and brackets around ranges, classes and further
brackets, joined or combined by operations. If case is ignored, a bracket holds with every character
all those that differ from it in case alone, before it is negated. Without the setting for Unicode a
set has no other characters than those of ASCII, and terms that would need more have no meaning.

## Main definitions

* `Regex.SetTerm` — terms for sets.
* `Regex.SetTerm.set?` — the set of a term.
* `Regex.SetTerm.depth` — how deep a term is nested.
-/

namespace StaticWiring.Regex

/-- A class with a letter of its own. The set that each of them stands for depends on the settings.
-/
inductive LetterClass where
  /-- Decimal digits. -/
  | digit
  /-- Characters of words. -/
  | word
  /-- White space. -/
  | blank
deriving DecidableEq, Inhabited

/-- An operation on sets. It stands between two sets in a bracket. -/
inductive SetOperation where
  /-- The characters that both sets share. -/
  | intersection
  /-- The characters of the first set alone. -/
  | difference
  /-- The characters of exactly one set. -/
  | symmetricDifference
deriving DecidableEq, Inhabited

/-- A term for a set. It is read before the settings are known to matter, and gets its set
afterwards. -/
inductive SetTerm where
  /-- The characters between two, both included. -/
  | range (first last : Char)
  /-- A class with a letter, or all other characters. -/
  | letterClass (negated : Bool) (letterClass : LetterClass)
  /-- A set of ASCII with a name, or all other characters. -/
  | posix (negated : Bool) (set : CharSet)
  /-- The characters of all terms together. -/
  | union (items : List SetTerm)
  /-- An operation on two sets. -/
  | operation (operation : SetOperation) (left right : SetTerm)
  /-- A set in brackets, or all other characters. -/
  | bracket (negated : Bool) (inner : SetTerm)
deriving Inhabited

namespace LetterClass

/-- The characters of a class. Without the setting for Unicode only the characters of ASCII are
left. -/
def set (settings : Settings) : LetterClass → CharSet
  | digit => if settings.has .unicode then .digit else ⟨[(0x30, 0x39)]⟩
  | word =>
    if settings.has .unicode then .word
    else ⟨[(0x30, 0x39), (0x41, 0x5A), (0x5F, 0x5F), (0x61, 0x7A)]⟩
  | blank => if settings.has .unicode then .blank else ⟨[(0x9, 0xD), (0x20, 0x20)]⟩

end LetterClass

/-- The set that an operation makes of two. There is one operation on sets for each of the three. -/
def SetOperation.apply : SetOperation → CharSet → CharSet → CharSet
  | intersection => .intersection
  | difference => .difference
  | symmetricDifference => .symmetricDifference

/-- The set with all characters that the settings do not distinguish from one of it. Nothing is
added if case matters. -/
def Settings.closeUnderCase (settings : Settings) (s : CharSet) : CharSet :=
  if settings.has .ignoreCase then
    s.closeUnderCase (if settings.has .unicode then CharSet.casePairs else CharSet.asciiCasePairs)
  else s

/-- The set or its complement, which goes beyond ASCII. There is none if classes do not go beyond
ASCII. -/
def Settings.negate? (settings : Settings) (negated : Bool) (s : CharSet) : Option CharSet :=
  if negated && !settings.has .unicode then none else some (s.negateIf negated)

namespace SetTerm

/-- The term for one character. It is the range from the character to itself. -/
def single (c : Char) : SetTerm :=
  range c c

mutual

/-- The set of a term. There is none if a part of the term goes beyond ASCII but the settings do
not. -/
def set? (settings : Settings) : SetTerm → Option CharSet
  | range first last =>
    if settings.has .unicode || last.toNat < 0x80 then some ⟨[(first.toNat, last.toNat)]⟩ else none
  | letterClass negated c => settings.negate? negated (c.set settings)
  | posix negated s => settings.negate? negated (settings.closeUnderCase s)
  | union items => do
    let sets ← sets? settings items
    some (.ofRanges (sets.flatMap (·.ranges)))
  | operation o left right => do
    let left ← left.set? settings
    let right ← right.set? settings
    some (o.apply (settings.closeUnderCase left) (settings.closeUnderCase right))
  | bracket negated inner => do
    settings.negate? negated (settings.closeUnderCase (← inner.set? settings))

/-- The sets of terms. They are in the same order, one for each term. -/
def sets? (settings : Settings) : List SetTerm → Option (List CharSet)
  | [] => some []
  | item :: items => do
    let s ← item.set? settings
    let rest ← sets? settings items
    some (s :: rest)

end

mutual

/-- How deep a term is nested: a bracket, an operation and a union of several terms stand around
what they are made of. -/
def depth : SetTerm → Nat
  | range _ _ => 0
  | letterClass _ _ => 0
  | posix _ _ => 0
  | union items => depthOfAll items + (if items.length < 2 then 0 else 1)
  | operation _ left right => max left.depth right.depth + 1
  | bracket _ inner => inner.depth + 1

/-- The depth of the term that is nested deepest. It is zero for no terms at all. -/
def depthOfAll : List SetTerm → Nat
  | [] => 0
  | item :: items => max item.depth (depthOfAll items)

end

end SetTerm

end StaticWiring.Regex
