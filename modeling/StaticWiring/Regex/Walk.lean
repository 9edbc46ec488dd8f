import StaticWiring.Regex.Basic

/-!
# Matching

Over one text, a regular expression leads from a position to all positions up to which the text
between them matches. It matches the text if it leads from some position to some position. A set of
positions is a number: its binary digit for `2 ^ i` is one if position `i` belongs to the set.

## Main definitions

* `Regex.Walk` — ways through a text.
* `Regex.Subject` — a text with the positions of its characters.
* `Regex.walk` — the ways through a text that a regular expression allows.
* `Regex.Walk.reach` — the positions that a way leads to from a set of positions.
* `Regex.isMatch` — the expression matches somewhere in the text.
-/

namespace StaticWiring.Regex

/-- A way through a text. Positions are the binary digits of a number, so that sets are united and
shifted in one step. -/
inductive Walk where
  /-- One position forward from certain positions. -/
  | forward (positions : Nat)
  /-- Nowhere else from certain positions. -/
  | stay (positions : Nat)
  /-- One way and then another. -/
  | andThen (w v : Walk)
  /-- One of two ways. -/
  | either (w v : Walk)
  /-- The same way at least `least` times, and at most `most` times if there is a limit. -/
  | again (w : Walk) (least : Nat) (most : Option Nat)
deriving DecidableEq, Inhabited

namespace Walk

/-- What a function of sets makes of a set after a number of applications, where it makes nothing of
no position. -/
def iterate (f : Nat → Nat) : (times : Nat) → Nat → Nat
  | 0, positions => positions
  | times + 1, positions => if positions = 0 then 0 else iterate f times (f positions)

/-- The positions `reached` with all that a function of sets makes of the positions `new` among them
in at most a number of applications. Only what was not reached before is followed. -/
def spread (f : Nat → Nat) : (times : Nat) → (reached new : Nat) → Nat
  | 0, reached, _ => reached
  | times + 1, reached, new =>
    let all := reached ||| f new
    if all = reached then reached else spread f times all (all ^^^ reached)

/-- The positions that a way leads to from a set of positions, in a text with `size` positions. A
number of repetitions beyond that size makes no difference, since all but fewer of them lead
nowhere else. -/
def reach (size : Nat) : Walk → Nat → Nat
  | forward positions, starts => (starts &&& positions) <<< 1
  | stay positions, starts => starts &&& positions
  | andThen w v, starts => v.reach size (w.reach size starts)
  | either w v, starts => w.reach size starts ||| v.reach size starts
  | again w least most, starts =>
    let once := iterate (w.reach size) (min least size) starts
    spread (w.reach size) (min (most.getD (least + size) - least) size) once once

end Walk

/-- The positions of a text, with the characters around them, that satisfy `p`. The first position
is the lowest digit. -/
def positionsWhere (p : (before after : Option Char) → Bool) : (before : Option Char) →
    List Char → Nat
  | before, [] => if p before none then 1 else 0
  | before, c :: cs =>
    2 * positionsWhere p (some c) cs + (if p before (some c) then 1 else 0)

/-- A text with the positions before each of its characters. They are found once for the text, and
not for every character of the expression. -/
structure Subject where
  /-- The text. -/
  text : List Char
  /-- The different characters of the text with the positions before them. -/
  occurrences : List (Char × Nat)

namespace Subject

/-- The subject for a text. Every character is listed once, at its first appearance. -/
def ofText (text : List Char) : Subject where
  text := text
  occurrences := text.eraseDups.map fun c =>
    (c, positionsWhere (fun _ after => after == some c) none text)

/-- All positions. There is one more than there are characters. -/
def all (s : Subject) : Nat :=
  positionsWhere (fun _ _ => true) none s.text

/-- The positions before a character of a set. The last position is never among them. -/
def before (s : Subject) (set : CharSet) : Nat :=
  s.occurrences.foldl (fun positions (c, found) =>
    if set.contains c then positions ||| found else positions) 0

/-- The positions that are as required. It may be any position of the text. -/
def places (s : Subject) (a : Anchor) : Nat :=
  positionsWhere (fun before after => a.holds before after) none s.text

/-- The way along certain characters. The empty text leads nowhere else from any position. -/
def along (s : Subject) : List Char → Walk
  | [] => .stay s.all
  | [c] => .forward (s.before (.single c))
  | c :: cs => .andThen (.forward (s.before (.single c))) (s.along cs)

end Subject

mutual

/-- The ways through a text that an expression allows. It has one constructor for each form of
expression, and the text of a group is walked like any other. -/
def walk (s : Subject) : Regex → Walk
  | empty => .stay s.all
  | literal text => s.along text
  | char set => .forward (s.before set)
  | anchor a => .stay (s.places a)
  | group _ r => walk s r
  | concat rs => walkAll s rs
  | alternation rs => walkAny s rs
  | repetition _ r least most => .again (walk s r) least most

/-- The ways through a text that several expressions allow behind each other. No expressions at all
lead nowhere else. -/
def walkAll (s : Subject) : List Regex → Walk
  | [] => .stay s.all
  | [r] => walk s r
  | r :: rs => .andThen (walk s r) (walkAll s rs)

/-- The ways through a text that any of several expressions allows. No expressions at all lead
nowhere. -/
def walkAny (s : Subject) : List Regex → Walk
  | [] => .stay 0
  | r :: rs => .either (walk s r) (walkAny s rs)

end

/-- The expression matches somewhere in the text. The match may start and end anywhere, and so all
positions are where the walk starts. -/
def isMatch (r : Regex) (text : String) : Bool :=
  let s := Subject.ofText text.toList
  (walk s r).reach (s.text.length + 1) s.all != 0

end StaticWiring.Regex
