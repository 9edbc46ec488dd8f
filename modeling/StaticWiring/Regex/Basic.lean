import StaticWiring.Regex.CharSet

/-!
# Regular expressions

Regular expressions over characters. The functions that build them bring them into a simple form:

* nothing empty and no sequence stands in a sequence, and characters that follow each other are one
  literal;
* alternatives are not themselves alternatives, and those that are all single characters or all
  larger sets are one set;
* what sequences that are alternatives all start with stands before them once;
* no repetition stands around what can only be empty, or around what stands there once.

## Main definitions

* `Regex`, `Regex.Anchor` — regular expressions.
* `Regex.ofSet`, `Regex.sequence`, `Regex.ofAlternatives`, `Regex.repeated` — expressions from their
  parts.
* `Regex.isMarker`, `Regex.leastLength?` — the expression matches nothing but the empty text, and
  the least number of characters that it matches.
* `Regex.startsFixed`, `Regex.endsFixed` — the expression matches at the start or at the end of the
  text alone.
-/

namespace StaticWiring

namespace Regex

/-- What may stand at a position of a word. What belongs to a word is for whoever asks to say. -/
inductive WordEdge where
  /-- The start or the end of a word. -/
  | boundary
  /-- Neither the start nor the end of a word. -/
  | inner
  /-- The start of a word. -/
  | first
  /-- The end of a word. -/
  | last
  /-- No word before. -/
  | firstHalf
  /-- No word behind. -/
  | lastHalf
deriving DecidableEq, Inhabited

/-- What a position of a text may be required to be. Anchors match the empty text, and look at the
two characters around it only. -/
inductive Anchor where
  /-- The start of the text. -/
  | startText
  /-- The end of the text. -/
  | endText
  /-- The start of a line, where a carriage return may also end lines. -/
  | startLine (carriageReturn : Bool)
  /-- The end of a line, where a carriage return may also end lines. -/
  | endLine (carriageReturn : Bool)
  /-- A position of a word that is made of the characters of a set. -/
  | word (edge : WordEdge) (set : CharSet)
deriving DecidableEq, Inhabited

/-- The position between two characters, if there are any, is as required. At an end of the text
there is a character on one side only, or none at all. -/
def Anchor.holds (before after : Option Char) : Anchor → Bool
  | startText => before.isNone
  | endText => after.isNone
  | startLine false => before.isNone || before == some '\n'
  | startLine true =>
    before.isNone || before == some '\n' || (before == some '\r' && after != some '\n')
  | endLine false => after.isNone || after == some '\n'
  | endLine true =>
    after.isNone || after == some '\r' || (after == some '\n' && before != some '\r')
  | word edge set =>
    let left := before.any set.contains
    let right := after.any set.contains
    match edge with
    | .boundary => left != right
    | .inner => left == right
    | .first => !left && right
    | .last => left && !right
    | .firstHalf => !left
    | .lastHalf => !right

end Regex

/-- A regular expression. It is what a pattern is read as, once settings and classes have been
replaced by sets. -/
inductive Regex where
  /-- The empty text. -/
  | empty
  /-- Certain characters, one behind the other. -/
  | literal (text : List Char)
  /-- One character of a set. -/
  | char (set : Regex.CharSet)
  /-- The empty text at certain positions. -/
  | anchor (anchor : Regex.Anchor)
  /-- A text that is kept under a number. -/
  | group (number : Nat) (r : Regex)
  /-- Texts behind each other. -/
  | concat (rs : List Regex)
  /-- One of several texts. -/
  | alternation (rs : List Regex)
  /-- At least `least` texts behind each other, and at most `most` if there is a limit. Few or many
  are preferred, which makes no difference to what matches. -/
  | repetition (fewFirst : Bool) (r : Regex) (least : Nat) (most : Option Nat)
deriving Inhabited

namespace Regex

/-! ### Equality -/

mutual

/-- Two expressions are the same. It is decided part by part, as the tree is nested in lists. -/
def same : Regex → Regex → Bool
  | empty, empty => true
  | literal a, literal b => a == b
  | char a, char b => a == b
  | anchor a, anchor b => a == b
  | group m r, group n s => m == n && r.same s
  | concat rs, concat ss => allSame rs ss
  | alternation rs, alternation ss => allSame rs ss
  | repetition f r least most, repetition g s least' most' =>
    f == g && r.same s && least == least' && most == most'
  | _, _ => false

/-- Expressions are the same one by one. The two lists are of the same length. -/
def allSame : List Regex → List Regex → Bool
  | [], [] => true
  | r :: rs, s :: ss => r.same s && allSame rs ss
  | _, _ => false

end

instance : BEq Regex := ⟨same⟩

/-! ### The length of what matches -/

mutual

/-- The expression matches nothing but the empty text. It may still match at certain positions only.
-/
def isMarker : Regex → Bool
  | empty => true
  | literal text => text.isEmpty
  | char _ => false
  | anchor _ => true
  | group _ r => r.isMarker
  | concat rs => allMarkers rs
  | alternation rs => allMarkers rs
  | repetition _ r _ most => r.isMarker && most.isSome

/-- All expressions match nothing but the empty text. The list may be empty. -/
def allMarkers : List Regex → Bool
  | [] => true
  | r :: rs => r.isMarker && allMarkers rs

end

mutual

/-- The least number of characters that an expression matches, if all of its parts match some
text. -/
def leastLength? : Regex → Option Nat
  | empty => some 0
  | literal text => some text.length
  | char set => if set.isEmpty then none else some 1
  | anchor _ => some 0
  | group _ r => r.leastLength?
  | concat rs => (leastLengths? rs).map (·.foldl (· + ·) 0)
  | alternation rs => (leastLengths? rs).bind (·.min?)
  | repetition _ r least _ => r.leastLength?.map (· * least)

/-- The least numbers of characters that expressions match. There are none if one of the expressions
matches no text at all. -/
def leastLengths? : List Regex → Option (List Nat)
  | [] => some []
  | r :: rs => do
    let n ← r.leastLength?
    let ns ← leastLengths? rs
    some (n :: ns)

end

/-! ### Expressions for one place -/

mutual

/-- The expression requires the start of the text before it matches any character. It cannot match
anywhere else, and so there is no use in trying to. -/
def startsFixed : Regex → Bool
  | anchor a => a == .startText
  | group _ r => r.startsFixed
  | concat rs => sequenceStartsFixed rs
  | alternation rs => allStartFixed rs
  | repetition _ r least _ => least != 0 && r.startsFixed
  | _ => false

/-- The sequence requires the start of the text before it matches any character. Parts that match
nothing but the empty text may stand before the one that requires it. -/
def sequenceStartsFixed : List Regex → Bool
  | [] => false
  | r :: rs => r.startsFixed || (r.isMarker && sequenceStartsFixed rs)

/-- All expressions require the start of the text before they match any character. A single
alternative that does not is enough to let the others start elsewhere. -/
def allStartFixed : List Regex → Bool
  | [] => true
  | r :: rs => r.startsFixed && allStartFixed rs

end

mutual

/-- The expression requires the end of the text behind all characters that it matches. It is the
counterpart of the one for the start. -/
def endsFixed : Regex → Bool
  | anchor a => a == .endText
  | group _ r => r.endsFixed
  | concat rs => sequenceEndsFixed rs
  | alternation rs => allEndFixed rs
  | repetition _ r least _ => least != 0 && r.endsFixed
  | _ => false

/-- The sequence requires the end of the text behind all characters that it matches. Parts that
match nothing but the empty text may stand behind the one that requires it. -/
def sequenceEndsFixed : List Regex → Bool
  | [] => false
  | r :: rs => sequenceEndsFixed rs || (allMarkers rs && r.endsFixed)

/-- All expressions require the end of the text behind all characters that they match. A single
alternative that does not is enough to let the others end elsewhere. -/
def allEndFixed : List Regex → Bool
  | [] => true
  | r :: rs => r.endsFixed && allEndFixed rs

end

/-! ### Expressions from their parts -/

/-- One character of a set. A set of a single character is that character. -/
def ofSet (set : CharSet) : Regex :=
  match set.single? with
  | some n => literal [Char.ofNat n]
  | none => char set

/-- The texts behind each other that an expression stands for. The empty text has none, and so
disappears in a sequence. -/
def items : Regex → List Regex
  | empty => []
  | concat rs => rs
  | r => [r]

/-- An expression before others, joined to a literal if both are literals. A literal therefore never
stands before another one in a sequence. -/
def putBefore : Regex → List Regex → List Regex
  | literal a, literal b :: rest => literal (a ++ b) :: rest
  | r, rest => r :: rest

/-- Texts behind each other. Sequences inside the sequence are resolved, and a single text stands
alone. -/
def sequence (rs : List Regex) : Regex :=
  match (rs.flatMap items).foldr putBefore [] with
  | [] => empty
  | [r] => r
  | rs => concat rs

/-- The alternatives that an expression stands for. An expression that is no alternation is its only
alternative. -/
def alternatives : Regex → List Regex
  | alternation rs => rs
  | r => [r]

/-- The set of an expression for one character, and whether it is a certain one. The two kinds are
kept apart, since alternatives are only merged if all are of one kind. -/
def set? : Regex → Option (Bool × CharSet)
  | literal [c] => some (true, .single c)
  | char set => some (false, set)
  | _ => none

/-- The only set that several alternatives stand for, if they are all single characters or all other
sets. -/
def commonSet? (rs : List Regex) : Option CharSet := do
  let sets ← rs.mapM set?
  if sets.all (·.1) || sets.all (!·.1) then some (.ofRanges (sets.flatMap (·.2.ranges))) else none

/-- One of several texts that do not all start alike. Alternations inside the alternation are
resolved, and single characters are put into one set. -/
def choice (rs : List Regex) : Regex :=
  match rs.flatMap alternatives with
  | [r] => r
  | rs =>
    match commonSet? rs with
    | some set => ofSet set
    | none => alternation rs

/-- What two sequences both start with. It ends at the first part in which they differ. -/
def commonStart : List Regex → List Regex → List Regex
  | r :: rs, s :: ss => if r == s then r :: commonStart rs ss else []
  | _, _ => []

/-- The parts of an expression that stands for several texts behind each other. Other expressions
have none, even if they are literals of several characters. -/
def sequence? : Regex → Option (List Regex)
  | concat rs => some rs
  | _ => none

/-- One of several texts. What sequences all start with stands before the choice between them. It is
only looked for if all alternatives are sequences. -/
def ofAlternatives (rs : List Regex) : Regex :=
  match choice rs with
  | alternation rs =>
    match rs.mapM sequence? with
    | some (first :: others) =>
      match others.foldl commonStart first with
      | [] => alternation rs
      | start =>
        let rest := (first :: others).map fun parts => sequence (parts.drop start.length)
        sequence (start ++ [choice rest])
    | _ => alternation rs
  | r => r

/-- Texts behind each other. What is always empty is as good once as many times, and what stands
there once needs no repetition. -/
def repeated (fewFirst : Bool) (r : Regex) (least : Nat) (most : Option Nat) : Regex :=
  let (least, most) :=
    if r.isMarker then (min least 1, some ((most.map (min · 1)).getD 1)) else (least, most)
  if least = 0 && most = some 0 then empty
  else if least = 1 && most = some 1 then r
  else repetition fewFirst r least most

end Regex

end StaticWiring
