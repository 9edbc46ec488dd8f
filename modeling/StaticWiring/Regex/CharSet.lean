import StaticWiring.Text.Blank
import StaticWiring.Text.Letter

/-!
# Sets of characters

The sets that regular expressions name. A set is the list of its ranges of code points, which ascend
and neither overlap nor touch, so that equal sets have equal ranges.

## Main definitions

* `Regex.CharSet` — sets of characters.
* `Regex.CharSet.contains` — membership.
* `Regex.CharSet.ofRanges`, `Regex.CharSet.union`, `Regex.CharSet.complement`,
  `Regex.CharSet.intersection`, `Regex.CharSet.difference`, `Regex.CharSet.symmetricDifference` —
  sets from ranges and from other sets.
* `Regex.CharSet.closeUnderCase` — a set with all characters that differ from one of it in case
  alone.
* `Regex.CharSet.word`, `Regex.CharSet.digit`, `Regex.CharSet.blank`, `Regex.CharSet.posix?` — the
  classes.
-/

namespace StaticWiring.Regex

/-- A set of characters. The ranges neither overlap nor touch, so that equal sets are equal lists.
-/
structure CharSet where
  /-- The first and the last code points of the ranges, ascending. -/
  ranges : List (Nat × Nat)
deriving DecidableEq, Inhabited

namespace CharSet

/-! ### Members -/

/-- A code point lies in one of the ranges, which ascend. The search stops at the first range that
starts behind the code point. -/
def inAscending : List (Nat × Nat) → Nat → Bool
  | [], _ => false
  | (first, last) :: rest, n => if n < first then false else n ≤ last || inAscending rest n

/-- The code point belongs to the set. Surrogates are no characters, but may be asked about. -/
def containsCode (s : CharSet) (n : Nat) : Bool :=
  inAscending s.ranges n

/-- The character belongs to the set. It is the question that matching asks at every position. -/
def contains (s : CharSet) (c : Char) : Bool :=
  s.containsCode c.toNat

/-- The set holds no character. An expression with such a set matches nothing. -/
def isEmpty (s : CharSet) : Bool :=
  s.ranges.isEmpty

/-- All characters of the set belong to ASCII. Such a set needs no more than one byte for a
character. -/
def isAscii (s : CharSet) : Bool :=
  s.ranges.all fun r => r.2 < 0x80

/-- The code point of the only character of the set. There is none if the set holds several
characters, or none. -/
def single? (s : CharSet) : Option Nat :=
  match s.ranges with
  | [(first, last)] => if first = last then some first else none
  | _ => none

/-! ### Sets from ranges -/

/-- Ranges with one more that starts before them, joined to those that it overlaps or touches.
Ranges touch if no code point lies between them. -/
def joinRange (r : Nat × Nat) : List (Nat × Nat) → List (Nat × Nat)
  | [] => [r]
  | s :: rest => if s.1 ≤ r.2 + 1 then joinRange (r.1, max r.2 s.2) rest else r :: s :: rest

/-- The set of the characters in any of the ranges. The ranges may come in any order, and may
overlap. -/
def ofRanges (ranges : List (Nat × Nat)) : CharSet :=
  ⟨(ranges.mergeSort fun r s => r.1 ≤ s.1).foldr joinRange []⟩

/-- The set that holds one character. It is a single range. -/
def single (c : Char) : CharSet :=
  ⟨[(c.toNat, c.toNat)]⟩

/-! ### Sets from other sets -/

/-- The characters of both sets together. The ranges of both are merged in order, and joined where
they overlap or touch. -/
def union (a b : CharSet) : CharSet :=
  ⟨(a.ranges.merge b.ranges fun r s => r.1 ≤ s.1).foldr joinRange []⟩

/-- The code point behind another one, past the surrogates. It may lie behind all code points, where
no range starts. -/
def codeAfter (n : Nat) : Nat :=
  if n = 0xD7FF then 0xE000 else n + 1

/-- The code point before another one, past the surrogates. It is asked for the start of a range,
which is not zero there. -/
def codeBefore (n : Nat) : Nat :=
  if n = 0xE000 then 0xD7FF else n - 1

/-- The ranges between ascending ranges, from a code point on. Surrogates are left out at the ends
of the gaps. -/
def gaps : (start : Nat) → List (Nat × Nat) → List (Nat × Nat)
  | start, [] => if start ≤ 0x10FFFF then [(start, 0x10FFFF)] else []
  | start, (first, last) :: rest =>
    if start < first then (start, codeBefore first) :: gaps (codeAfter last) rest
    else gaps (codeAfter last) rest

/-- All other characters. A set and its complement hold every character between them. -/
def complement (s : CharSet) : CharSet :=
  ⟨gaps 0 s.ranges⟩

/-- The characters that both sets share. It is computed from unions and complements alone. -/
def intersection (a b : CharSet) : CharSet :=
  complement (union (complement a) (complement b))

/-- The characters of the first set alone. It is computed from an intersection and a complement. -/
def difference (a b : CharSet) : CharSet :=
  intersection a (complement b)

/-- The characters of exactly one set. It is the same whichever of the two sets comes first. -/
def symmetricDifference (a b : CharSet) : CharSet :=
  union (difference a b) (difference b a)

/-- The set, or its complement if it is negated. Brackets and classes are negated alike. -/
def negateIf (negated : Bool) (s : CharSet) : CharSet :=
  if negated then s.complement else s

/-! ### Case -/

/-- The letters of ASCII from capital to small. There are as many as letters. -/
def asciiCasePairs : List (Nat × Nat) :=
  (List.range 26).map fun i => (0x41 + i, 0x61 + i)

/-- All code points that the simple case folding changes, with their images. They are spelled out
from the shifts by which the folding is given. -/
def casePairs : List (Nat × Nat) :=
  Text.foldShifts.flatMap fun s =>
    (List.range ((s.last - s.first) / s.step + 1)).map fun i =>
      let n := s.first + i * s.step
      (n, ((n : Int) + s.delta).toNat)

/-- The set with all code points that share their image under the case folding `pairs` with one of
the set. -/
def closeUnderCase (pairs : List (Nat × Nat)) (s : CharSet) : CharSet :=
  let images := ofRanges <| pairs.filterMap fun (n, image) =>
    if s.containsCode n || s.containsCode image then some (image, image) else none
  let sources := ofRanges <| pairs.filterMap fun (n, image) =>
    if images.containsCode image then some (n, n) else none
  union s (union images sources)

/-! ### Classes -/

/-- The ranges of the classes of ASCII. Each class is listed in ascending order, so that it is a set
as it stands. -/
def posixRanges : List (String × List (Char × Char)) :=
  [("alnum", [('0', '9'), ('A', 'Z'), ('a', 'z')]), ("alpha", [('A', 'Z'), ('a', 'z')]),
    ("ascii", [('\x00', '\x7f')]), ("blank", [('\t', '\t'), (' ', ' ')]),
    ("cntrl", [('\x00', '\x1f'), ('\x7f', '\x7f')]), ("digit", [('0', '9')]),
    ("graph", [('!', '~')]), ("lower", [('a', 'z')]), ("print", [(' ', '~')]),
    ("punct", [('!', '/'), (':', '@'), ('[', '\x60'), ('\x7b', '~')]),
    ("space", [('\t', '\r'), (' ', ' ')]), ("upper", [('A', 'Z')]),
    ("word", [('0', '9'), ('A', 'Z'), ('_', '_'), ('a', 'z')]),
    ("xdigit", [('0', '9'), ('A', 'F'), ('a', 'f')])]

/-- The class of ASCII with a name. There is none for other names, and such a class makes the
pattern no expression. -/
def posix? (name : String) : Option CharSet :=
  (posixRanges.lookup name).map fun ranges => ⟨ranges.map fun r => (r.1.toNat, r.2.toNat)⟩

/-- Decimal digits. They are those of every script. -/
def digit : CharSet :=
  ofRanges ((0x30, 0x39) :: Text.decimalDigitRanges)

/-- Characters of words: letters without the latest ones, decimal digits, marks, connector
punctuation and join controls. -/
def word : CharSet :=
  ofRanges ([(0x30, 0x39), (0x41, 0x5A), (0x5F, 0x5F), (0x61, 0x7A)] ++ Text.alphabeticRanges ++
    Text.decimalDigitRanges ++ Text.wordMarkRanges)

/-- White space. It is that of Unicode, and so has more than that of ASCII. -/
def blank : CharSet :=
  ⟨[(0x9, 0xD), (0x20, 0x20), (0x85, 0x85), (0xA0, 0xA0), (0x1680, 0x1680), (0x2000, 0x200A),
    (0x2028, 0x2029), (0x202F, 0x202F), (0x205F, 0x205F), (0x3000, 0x3000)]⟩

end CharSet

end StaticWiring.Regex
