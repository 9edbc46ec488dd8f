import StaticWiring.Regex.CharSet

/-!
# Sets of characters as sequences of bytes

The characters of a set, encoded in UTF-8, are those that follow one of a list of sequences of
ranges of bytes. Each sequence comes from a range of code points whose encodings are equally long
and differ in their last bytes without restriction, once they differ in an earlier one.

## Main definitions

* `Regex.utf8` — the bytes of a code point.
* `Regex.CharSet.byteSequences` — the sequences of a set.
* `Regex.ByteTree` — sequences with shared beginnings.
-/

namespace StaticWiring.Regex

/-- The number of bytes of a code point. It depends on the bounds of the encoding alone. -/
def utf8Length (n : Nat) : Nat :=
  if n < 0x80 then 1 else if n < 0x800 then 2 else if n < 0x10000 then 3 else 4

/-- The bytes of a code point. Only the first of them tells how many there are. -/
def utf8 (n : Nat) : List Nat :=
  match utf8Length n with
  | 1 => [n]
  | 2 => [0xC0 + n / 0x40, 0x80 + n % 0x40]
  | 3 => [0xE0 + n / 0x1000, 0x80 + n / 0x40 % 0x40, 0x80 + n % 0x40]
  | _ => [0xF0 + n / 0x40000, 0x80 + n / 0x1000 % 0x40, 0x80 + n / 0x40 % 0x40, 0x80 + n % 0x40]

/-- Ranges of bytes, one behind the other. A sequence stands for all combinations of bytes of its
ranges. -/
abbrev ByteSequence := List (Nat × Nat)

/-! ### Ranges of code points -/

/-- The part of a range that lies in another one. There is none if the two do not meet. -/
def clip (within range : Nat × Nat) : Option (Nat × Nat) :=
  let first := max within.1 range.1
  let last := min within.2 range.2
  if first ≤ last then some (first, last) else none

/-- The ranges of code points with equally long encodings. Surrogates have no encoding, and so lie
in none of them. -/
def lengthRanges : List (Nat × Nat) :=
  [(0, 0x7F), (0x80, 0x7FF), (0x800, 0xD7FF), (0xE000, 0xFFFF), (0x10000, 0x10FFFF)]

/-- A range cut such that every part lies in one block of code points or is made of whole ones, for
each of the sizes of blocks. -/
def alignedParts : (sizes : List Nat) → (first last : Nat) → List (Nat × Nat)
  | [], first, last => [(first, last)]
  | size :: sizes, first, last =>
    if first / size = last / size then [(first, last)]
    else
      let start := (first + size - 1) / size * size
      let stop := (last + 1) / size * size
      (if first < start then [(first, start - 1)] else []) ++
        (if start < stop then alignedParts sizes start (stop - 1) else []) ++
        (if stop ≤ last then [(stop, last)] else [])

/-- The sequences of bytes of a range of code points. There is one for each part in which the bytes
vary independently of each other. -/
def byteSequences (range : Nat × Nat) : List ByteSequence :=
  (lengthRanges.filterMap (clip range)).flatMap fun (first, last) =>
    if last < 0x80 then [[(first, last)]]
    else (alignedParts [0x40, 0x1000, 0x40000] first last).map fun (first, last) =>
      (utf8 first).zip (utf8 last)

/-- The sequences of bytes of a set. They ascend, as the ranges of the set do. -/
def CharSet.byteSequences (s : CharSet) : List ByteSequence :=
  s.ranges.flatMap Regex.byteSequences

/-! ### Sequences with shared beginnings -/

/-- Sequences of ranges of bytes, of which neighbours with the same beginning share it. Only
neighbours are merged, so that the order of the sequences is kept. -/
inductive ByteTree where
  /-- No sequence, or behind a range, the end of the only sequence. -/
  | nil
  /-- The sequences that start with a range, before the other ones. -/
  | branch (range : Nat × Nat) (behind others : ByteTree)
deriving DecidableEq, Inhabited

namespace ByteTree

/-- One more sequence, before the other ones. It shares as much of its beginning as the sequence
next to it allows. -/
def insert : ByteSequence → ByteTree → ByteTree
  | [], tree => tree
  | range :: s, branch head behind others =>
    if range = head then branch head (behind.insert s) others
    else branch range (nil.insert s) (branch head behind others)
  | range :: s, nil => branch range (nil.insert s) nil

/-- The tree of sequences. They are inserted from the last to the first, and so keep their order. -/
def ofSequences (sequences : List ByteSequence) : ByteTree :=
  sequences.foldr insert nil

end ByteTree

end StaticWiring.Regex
