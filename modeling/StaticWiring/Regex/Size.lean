import StaticWiring.Regex.Basic
import StaticWiring.Regex.Encoding
import StaticWiring.Regex.Machine
import StaticWiring.Regex.WordTree

/-!
# The size of regular expressions

An expression is refused if the machine for it would take too much memory. The machine reads bytes
and has a state for every byte to be read and for every choice; a repetition with a limit is written
out. The machine is made twice, for texts read forward and backward, and neither may be too large.
Numbers of groups are kept by the first one alone.

## Main definitions

* `Regex.Direction` — the direction of reading.
* `Regex.build` — the machine with the states for an expression.
* `Regex.machine` — the machine for an expression alone.
* `Regex.fits` — the expression is not too large.
-/

namespace StaticWiring.Regex

/-- The direction in which a machine reads. Two machines are made for every expression, one of each
kind. -/
inductive Direction where
  /-- From the start to the end. -/
  | forward
  /-- From the end to the start. -/
  | backward
deriving DecidableEq, Inhabited

/-- The number of places of a table of shared states. The tables differ, as the two kinds of machine
share states for different reasons. -/
def Direction.places : Direction → Nat
  | forward => 10000
  | backward => 1000

/-! ### Characters -/

/-- The state that leads on by ranges of bytes, each from its first to its last byte to the state
with a number. -/
def Sharing.branching (links : List (Nat × Nat × Nat)) (s : Sharing) : Nat × Sharing :=
  s.state Direction.forward.places links.length <|
    links.flatMap fun (first, last, number) => [first, last, number]

/-- The links by the first ranges of a tree of sequences. The states that they lead to are made
before, and shared where they lead on alike. A sequence that ends leads to the state `target`. -/
def ByteTree.links (target : Nat) : ByteTree → Sharing → List (Nat × Nat × Nat) × Sharing
  | nil, s => ([], s)
  | branch range behind others, s =>
    let (number, s) :=
      match behind.links target s with
      | ([], s) => (target, s)
      | (links, s) => s.branching links
    let (links, s) := others.links target s
    ((range.1, range.2, number) :: links, s)

/-- The machine with the states for a tree of sequences. The state behind the sequences is made
first, and all of them lead to it. -/
def ByteTree.build (tree : ByteTree) (m : Machine) : Machine :=
  let (links, s) := tree.links m.states { machine := m.addStates 1 }
  (s.branching links).2.machine

/-- A machine with the states for a sequence that is read backward and leads to the state
`target`. -/
def ByteSequence.share (target : Nat) (s : Sharing) (sequence : ByteSequence) : Sharing :=
  (sequence.foldl (fun (target, s) (first, last) =>
    s.state Direction.backward.places 0 [target, first, last]) (target, s)).2

/-- The machine with the states for sequences that are read backward. Sequences with the same end
share the states for it. -/
def ByteSequence.buildAny (sequences : List ByteSequence) (m : Machine) : Machine :=
  let s := sequences.foldl (ByteSequence.share (m.states + 1)) { machine := m.addStates 2 }
  s.machine.link sequences.length

/-- The machine with the states for one character of a set. The way it is made depends on the
direction, unless one byte is enough for every character. -/
def CharSet.build (direction : Direction) (set : CharSet) (m : Machine) : Machine :=
  if set.isAscii then (m.addStates 1).addRanges set.ranges.length
  else
    match direction with
    | .forward => (ByteTree.ofSequences set.byteSequences).build m
    | .backward => ByteSequence.buildAny set.byteSequences m

/-! ### Words -/

/-- The bytes of characters, in the order in which they are read. Bytes of a character are reversed
along with the characters. -/
def encoded (direction : Direction) (text : List Char) : List Nat :=
  let bytes := text.flatMap fun c => utf8 c.toNat
  match direction with
  | .forward => bytes
  | .backward => bytes.reverse

/-- The machine with the state for a choice between bytes, if there are any. A single byte needs no
ranges. -/
def Machine.choose (bytes : Nat) (m : Machine) : Machine :=
  if bytes = 0 then m else (m.addRanges (if bytes = 1 then 0 else bytes)).link 1

/-- The machine with the states for the words of a tree. A number of bytes were read before it that
lead on from the same state. -/
def WordTree.build : (before : Nat) → WordTree → Machine → Machine
  | before, nil, m => m.choose before
  | before, ended earlier, m => earlier.build 0 ((m.choose before).link 1)
  | before, byte _ behind others, m =>
    others.build (before + 1) (if behind.isEnd then m else behind.build 0 (m.addStates 1))

/-! ### Expressions -/

/-- The literals that expressions are. There are none unless all expressions are literals. -/
def literals? (rs : List Regex) : Option (List (List Char)) :=
  rs.mapM fun
    | literal text => some text
    | _ => none

/-- The machine with the states for a choice between literals. Literals with the same beginning
share the states for it. -/
def buildLiterals (direction : Direction) (texts : List (List Char)) (m : Machine) : Machine :=
  (WordTree.ofWords (texts.map (encoded direction))).build 0 (m.addStates 2)

/-- The machine with a part repeated, which may be empty or not. A part that may be empty needs
further states, since it could be repeated without end. -/
def buildRepetition (part : Machine → Machine) (isNonempty : Bool) (least : Nat)
    (most : Option Nat) (m : Machine) : Machine :=
  match most with
  | none =>
    if least = 0 then
      if isNonempty then (part (m.addStates 1)).link 2 else ((part m).addStates 3).link 4
    else ((m.repeated part least).addStates 1).link 2
  | some most =>
    if least = 0 && most = 1 then ((part (m.addStates 1)).addStates 1).link 2
    else if least = most then m.repeated part least
    else
      let start := if least = 0 then m.addStates 1 else m.repeated part least
      (start.addStates 1).repeated (fun m => (part (m.addStates 1)).link 2) (most - least)

mutual

/-- The machine with the states for an expression. The states are counted only, and nothing is said
about what they lead to. -/
def build (direction : Direction) : Regex → Machine → Machine
  | empty, m => m.addStates 1
  | literal text, m => m.addStates (encoded direction text).length
  | char set, m => set.build direction m
  | anchor _, m => m.addStates 1
  | group _ r, m =>
    match direction with
    | .forward => (r.build direction (m.addStates 1)).addStates 1
    | .backward => r.build direction m
  | concat rs, m => buildAll direction rs m
  | alternation rs, m =>
    match literals? rs with
    | some texts => buildLiterals direction texts m
    | none => buildAny direction 0 rs m
  | repetition _ r least most, m =>
    buildRepetition (r.build direction) (r.leastLength?.any (0 < ·)) least most m

/-- The machine with the states for expressions behind each other, in the order in which they are
read. -/
def buildAll (direction : Direction) : List Regex → Machine → Machine
  | [], m => m
  | r :: rs, m =>
    match direction with
    | .forward => buildAll direction rs (r.build direction m)
    | .backward => r.build direction (buildAll direction rs m)

/-- The machine with the states for expressions of which one is chosen. The choice itself is made
behind the first two of them. -/
def buildAny (direction : Direction) : (before : Nat) → List Regex → Machine → Machine
  | _, [], m => m
  | before, r :: rs, m =>
    let m := (r.build direction m).link 1
    buildAny direction (before + 1) rs (if before = 1 then m.addStates 2 else m)

end

/-- The machine for an expression, with the states where it starts and ends. Unless the expression
has a fixed place, it is looked for from any place on. -/
def machine (direction : Direction) (r : Regex) : Machine :=
  let start (isFixed : Bool) : Machine :=
    if isFixed then { states := 1 } else { states := 3, links := 16 }
  match direction with
  | .forward => (r.build direction ((start r.startsFixed).addStates 1)).addStates 2
  | .backward => (r.build direction (start r.endsFixed)).addStates 1

/-- Neither machine is too large. An expression is refused if one of them is. -/
def fits (r : Regex) : Bool :=
  !(r.machine .forward).isFull && !(r.machine .backward).isFull

end StaticWiring.Regex
