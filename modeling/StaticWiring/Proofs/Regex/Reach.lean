import Mathlib.Data.Nat.Bitwise
import StaticWiring.Regex.Walk

/-!
# Positions that an expression leads to

An expression takes a set of positions of a text to a set of positions of the same text. Behind each
other, expressions take a set along one after the other; as alternatives, they take it to all that
any of them reaches. An expression matches a text as a whole if it leads from the start of the text
to its end.

## Main definitions

* `Regex.reach` — the positions that an expression leads to.
* `Regex.through`, `Regex.among` — those of expressions behind each other, and of alternatives.
* `Regex.matchesWhole` — an expression matches a text as a whole.

## Main results

* `Regex.reach_lt` — an expression stays within the text.
* `Regex.reach_concat`, `Regex.reach_alternation` — the positions of sequences and alternatives.
* `Regex.reach_startText`, `Regex.reach_endText` — those of the ends of the text.
-/

namespace StaticWiring.Regex

variable {text : List Char} {starts : Nat}

/-- The start of the text is a position. There is always one position more than characters. -/
theorem start_lt (text : List Char) : 1 < 2 ^ (text.length + 1) :=
  Nat.one_lt_two_pow (Nat.succ_ne_zero _)

/-! ### Sets of positions -/

theorem positionsWhere_lt (p : Option Char → Option Char → Bool) (before : Option Char)
    (text : List Char) : positionsWhere p before text < 2 ^ (text.length + 1) := by
  induction text generalizing before with
  | nil =>
    rw [positionsWhere]
    split <;> decide
  | cons c cs ih =>
    have rest := ih (some c)
    rw [positionsWhere, List.length_cons, Nat.pow_succ]
    split <;> omega

/-- Positions before a character are not the end of the text. It bounds what one further step may
reach. -/
theorem positionsWhere_lt_of_after {p : Option Char → Option Char → Bool}
    (after : ∀ before, p before none = false) (before : Option Char) (text : List Char) :
    positionsWhere p before text < 2 ^ text.length := by
  induction text generalizing before with
  | nil => simp [positionsWhere, after]
  | cons c cs ih =>
    have rest := ih (some c)
    rw [positionsWhere, List.length_cons, Nat.pow_succ]
    split <;> omega

theorem positionsWhere_true (before : Option Char) (text : List Char) :
    positionsWhere (fun _ _ => true) before text = 2 ^ (text.length + 1) - 1 := by
  induction text generalizing before with
  | nil => rfl
  | cons c cs ih =>
    have positive := Nat.two_pow_pos (cs.length + 1)
    rw [positionsWhere, ih, List.length_cons, Nat.pow_succ 2 (cs.length + 1), if_pos rfl]
    omega

theorem positionsWhere_isNone_before (text : List Char) :
    positionsWhere (fun before _ => before.isNone) none text = 1 := by
  have behind (c : Char) (cs : List Char) :
      positionsWhere (fun before _ => before.isNone) (some c) cs = 0 := by
    induction cs generalizing c with
    | nil => rfl
    | cons d ds ih => rw [positionsWhere, ih]; rfl
  cases text with
  | nil => rfl
  | cons c cs => rw [positionsWhere, behind]; rfl

theorem positionsWhere_isNone_after (before : Option Char) (text : List Char) :
    positionsWhere (fun _ after => after.isNone) before text = 2 ^ text.length := by
  induction text generalizing before with
  | nil => rfl
  | cons c cs ih =>
    rw [positionsWhere, ih, List.length_cons, Nat.pow_succ]
    simp [Nat.mul_comm]

namespace Subject

theorem all_ofText (text : List Char) : (ofText text).all = 2 ^ (text.length + 1) - 1 :=
  positionsWhere_true none text

/-- All positions that a set of positions shares with all of them are its own. Positions of a text
are numbers below a power of two. -/
theorem and_all (h : starts < 2 ^ (text.length + 1)) : starts &&& (ofText text).all = starts := by
  rw [all_ofText, Nat.and_two_pow_sub_one_eq_mod, Nat.mod_eq_of_lt h]

theorem before_lt (text : List Char) (set : CharSet) :
    (ofText text).before set < 2 ^ text.length := by
  have found (c : Char) :
      positionsWhere (fun _ after => after == some c) none text < 2 ^ text.length :=
    positionsWhere_lt_of_after (fun _ => rfl) none text
  unfold before ofText
  simp only [List.foldl_map]
  -- Every union of the fold stays below the end of the text.
  refine List.foldlRecOn (motive := (· < 2 ^ text.length)) _ _ (Nat.two_pow_pos _)
    fun positions within c _ => ?_
  split
  · exact Nat.or_lt_two_pow within (found c)
  · exact within

end Subject

/-! ### Ways within the text -/

namespace Walk

/-- The way leads no further than position `n`. It is an invariant of ways, which are built by the
same recursion. -/
def StaysWithin (n : Nat) : Walk → Prop
  | forward positions => positions < 2 ^ n
  | stay _ => True
  | andThen w v => w.StaysWithin n ∧ v.StaysWithin n
  | either w v => w.StaysWithin n ∧ v.StaysWithin n
  | again w _ _ => w.StaysWithin n

theorem iterate_lt {f : Nat → Nat} {n : Nat} (within : ∀ x < n, f x < n) (times : Nat) :
    ∀ x < n, iterate f times x < n := by
  induction times with
  | zero => exact fun x hx => hx
  | succ times ih =>
    intro x hx
    rw [iterate]
    split
    · omega
    · exact ih (f x) (within x hx)

theorem spread_lt {f : Nat → Nat} {n : Nat} (within : ∀ x < 2 ^ n, f x < 2 ^ n) (times : Nat) :
    ∀ reached < 2 ^ n, ∀ new < 2 ^ n, spread f times reached new < 2 ^ n := by
  induction times with
  | zero => exact fun reached hr new _ => hr
  | succ times ih =>
    intro reached hr new hn
    have all : reached ||| f new < 2 ^ n := Nat.or_lt_two_pow hr (within new hn)
    rw [spread]
    split
    · exact hr
    · exact ih _ all _ (Nat.xor_lt_two_pow all hr)

theorem reach_lt {n size : Nat} {w : Walk} (h : w.StaysWithin n) :
    ∀ starts < 2 ^ (n + 1), w.reach size starts < 2 ^ (n + 1) := by
  induction w with
  | forward positions =>
    intro starts _
    have common : starts &&& positions < 2 ^ n := Nat.and_lt_two_pow starts h
    rw [reach, Nat.shiftLeft_eq, Nat.pow_succ]
    omega
  | stay positions => exact fun starts hs => Nat.lt_of_le_of_lt Nat.and_le_left hs
  | andThen w v hw hv => exact fun starts hs => hv h.2 _ (hw h.1 starts hs)
  | either w v hw hv =>
    exact fun starts hs => Nat.or_lt_two_pow (hw h.1 starts hs) (hv h.2 starts hs)
  | again w least most hw =>
    intro starts hs
    have once := iterate_lt (hw h) (min least size) starts hs
    exact spread_lt (hw h) _ _ once _ once

end Walk

theorem staysWithin_along (text cs : List Char) :
    ((Subject.ofText text).along cs).StaysWithin text.length := by
  induction cs with
  | nil => trivial
  | cons c cs ih =>
    cases cs with
    | nil => exact Subject.before_lt text _
    | cons d ds => exact ⟨Subject.before_lt text _, ih⟩

mutual

theorem staysWithin_walk (text : List Char) :
    (r : Regex) → (walk (Subject.ofText text) r).StaysWithin text.length
  | empty => trivial
  | literal cs => staysWithin_along text cs
  | char set => Subject.before_lt text set
  | anchor _ => trivial
  | group _ r => staysWithin_walk text r
  | concat rs => staysWithin_walkAll text rs
  | alternation rs => staysWithin_walkAny text rs
  | repetition _ r _ _ => staysWithin_walk text r

theorem staysWithin_walkAll (text : List Char) :
    (rs : List Regex) → (walkAll (Subject.ofText text) rs).StaysWithin text.length
  | [] => trivial
  | [r] => staysWithin_walk text r
  | r :: s :: rs => ⟨staysWithin_walk text r, staysWithin_walkAll text (s :: rs)⟩

theorem staysWithin_walkAny (text : List Char) :
    (rs : List Regex) → (walkAny (Subject.ofText text) rs).StaysWithin text.length
  | [] => trivial
  | r :: rs => ⟨staysWithin_walk text r, staysWithin_walkAny text rs⟩

end

/-! ### Reached positions -/

/-- The positions of a text that an expression leads to. The positions are the bits of the result.
-/
def reach (text : List Char) (r : Regex) (starts : Nat) : Nat :=
  (walk (Subject.ofText text) r).reach (text.length + 1) starts

/-- The positions of a text that expressions behind each other lead to. Each starts where those
before it end. -/
def through (text : List Char) (rs : List Regex) (starts : Nat) : Nat :=
  rs.foldl (fun positions r => r.reach text positions) starts

/-- The positions of a text that any of several expressions leads to. All of them start from the
same positions. -/
def among (text : List Char) (rs : List Regex) (starts : Nat) : Nat :=
  rs.foldr (fun r positions => r.reach text starts ||| positions) 0

/-- The expression matches the text as a whole: it leads from the start to the end. It may lead to
other positions on the way. -/
def matchesWhole (r : Regex) (text : String) : Bool :=
  (r.reach text.toList 1).testBit text.toList.length

theorem reach_lt (r : Regex) (h : starts < 2 ^ (text.length + 1)) :
    r.reach text starts < 2 ^ (text.length + 1) :=
  Walk.reach_lt (staysWithin_walk text r) starts h

theorem through_cons (r : Regex) (rs : List Regex) :
    through text (r :: rs) starts = through text rs (r.reach text starts) :=
  rfl

theorem through_append (rs ss : List Regex) :
    through text (rs ++ ss) starts = through text ss (through text rs starts) :=
  List.foldl_append

theorem through_lt (rs : List Regex) (h : starts < 2 ^ (text.length + 1)) :
    through text rs starts < 2 ^ (text.length + 1) := by
  induction rs generalizing starts with
  | nil => exact h
  | cons r rs ih => exact ih (reach_lt r h)

theorem among_cons (r : Regex) (rs : List Regex) :
    among text (r :: rs) starts = r.reach text starts ||| among text rs starts :=
  rfl

theorem among_append (rs ss : List Regex) :
    among text (rs ++ ss) starts = among text rs starts ||| among text ss starts := by
  induction rs with
  | nil => exact (Nat.zero_or _).symm
  | cons r rs ih => rw [List.cons_append, among_cons, ih, among_cons, Nat.or_assoc]

theorem reach_empty (h : starts < 2 ^ (text.length + 1)) : empty.reach text starts = starts :=
  Subject.and_all h

theorem reach_group (n : Nat) (r : Regex) :
    (group n r).reach text starts = r.reach text starts := by
  simp only [reach, walk]

theorem reach_concat (rs : List Regex) (h : starts < 2 ^ (text.length + 1)) :
    (concat rs).reach text starts = through text rs starts := by
  induction rs generalizing starts with
  | nil => exact Subject.and_all h
  | cons r rs ih =>
    cases rs with
    | nil => simp only [reach, walk, walkAll, through, List.foldl_cons, List.foldl_nil]
    | cons s ss =>
      rw [through_cons, ← ih (reach_lt r h)]
      simp only [reach, walk, walkAll, Walk.reach]

theorem reach_alternation (rs : List Regex) :
    (alternation rs).reach text starts = among text rs starts := by
  induction rs with
  | nil => exact Nat.and_zero starts
  | cons r rs ih =>
    rw [among_cons, ← ih]
    simp only [reach, walk, walkAny, Walk.reach]

theorem reach_literal_cons (c : Char) (cs : List Char) (h : starts < 2 ^ (text.length + 1)) :
    (literal (c :: cs)).reach text starts =
      (literal cs).reach text ((literal [c]).reach text starts) := by
  cases cs with
  | nil => exact (Subject.and_all (reach_lt (literal [c]) h)).symm
  | cons d ds => simp only [reach, walk, Subject.along, Walk.reach]

theorem reach_literal_append (as bs : List Char) (h : starts < 2 ^ (text.length + 1)) :
    (literal (as ++ bs)).reach text starts =
      (literal bs).reach text ((literal as).reach text starts) := by
  induction as generalizing starts with
  | nil =>
    have nothing : (literal []).reach text starts = starts := Subject.and_all h
    rw [List.nil_append, nothing]
  | cons a as ih =>
    rw [List.cons_append, reach_literal_cons a (as ++ bs) h, reach_literal_cons a as h,
      ih (reach_lt (literal [a]) h)]

/-! ### The ends of the text -/

theorem reach_startText : (anchor .startText).reach text starts = starts &&& 1 := by
  have places : (Subject.ofText text).places .startText = 1 := positionsWhere_isNone_before text
  simp only [reach, walk, Walk.reach, places]

theorem reach_endText : (anchor .endText).reach text starts = starts &&& 2 ^ text.length := by
  have places : (Subject.ofText text).places .endText = 2 ^ text.length :=
    positionsWhere_isNone_after none text
  simp only [reach, walk, Walk.reach, places]

end StaticWiring.Regex
