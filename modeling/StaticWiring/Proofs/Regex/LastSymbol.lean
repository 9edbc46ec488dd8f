import StaticWiring.Proofs.Regex.ClosedSymbols

/-!
# The star at the end of a text

The last symbol of a text that ends with a dot and a star is the star. No other symbol ends with a
star: a star behind a backslash is a character, but the dot stands between them here. What is left
to the end of the text may also be a comment, in which case a closing parenthesis behind the text is
lost.

## Main definitions

* `Regex.Leaves`, `Regex.Skips` — what is left of a text behind characters the last of which is no
  star.
* `Regex.EndsDotStar` — what may be left of a text that ends with a dot and a star.

## Main results

* `Regex.leaves_of_scanSymbol?` — what is left behind a symbol.
* `Regex.exists_eq_concat_of_endsDotStar` — the last symbol is the star.
-/

namespace StaticWiring.Regex

variable {cs rest mid : List Char} {c : Char} {spaced : Bool} {p : Char → Bool}

/-! ### What is left of a text -/

/-- What is left of a text behind at least one character. The last one is no star, unless nothing is
left: a comment goes on to the end of the text, whatever its characters are. -/
def Leaves (cs rest : List Char) : Prop :=
  ∃ front last, cs = front ++ last :: rest ∧ (rest ≠ [] → last ≠ '*')

/-- What is left of a text behind any number of characters. It is the form for scans that may find
nothing. -/
def Skips (cs rest : List Char) : Prop :=
  cs = rest ∨ Leaves cs rest

namespace Leaves

theorem isSuffix (h : Leaves cs rest) : rest <:+ cs := by
  obtain ⟨front, last, rfl, -⟩ := h
  exact ⟨front ++ [last], by simp⟩

theorem of_isSuffix (h : Leaves mid rest) (suffix : mid <:+ cs) : Leaves cs rest := by
  obtain ⟨front, last, rfl, plain⟩ := h
  obtain ⟨before, rfl⟩ := suffix
  exact ⟨before ++ front, last, by simp, plain⟩

/-- What is left is left of the characters behind the first one. At least one character was taken.
-/
theorem isSuffix_tail (h : Leaves (c :: cs) rest) : rest <:+ cs := by
  obtain ⟨front, last, same, -⟩ := h
  cases front with
  | nil => exact (List.cons.inj same).2 ▸ List.suffix_rfl
  | cons d front =>
    rw [(List.cons.inj same).2]
    exact ⟨front ++ [last], by simp⟩

theorem single (rest : List Char) (plain : c ≠ '*') : Leaves (c :: rest) rest :=
  ⟨[], c, rfl, fun _ => plain⟩

theorem cons (h : Leaves cs rest) (c : Char) : Leaves (c :: cs) rest :=
  h.of_isSuffix (List.suffix_cons c cs)

end Leaves

namespace Skips

theorem isSuffix (h : Skips cs rest) : rest <:+ cs := by
  obtain rfl | h := h
  · exact List.suffix_rfl
  · exact h.isSuffix

theorem trans (h : Skips cs mid) (h' : Skips mid rest) : Skips cs rest := by
  obtain rfl | h' := h'
  · exact h
  · exact .inr (h'.of_isSuffix h.isSuffix)

theorem cons (h : Skips cs rest) (plain : c ≠ '*') : Leaves (c :: cs) rest := by
  obtain rfl | h := h
  · exact .single cs plain
  · exact h.cons c

end Skips

/-! ### Space and names -/

theorem ne_star_of_isBlank (h : Text.isBlank c = true) : c ≠ '*' := by
  rintro rfl
  cases h

theorem skips_skipBlanks (cs : List Char) :
    Skips cs (skipBlanks false cs) ∧ ∀ c, Leaves (c :: cs) (skipBlanks true cs) := by
  induction cs with
  | nil => exact ⟨.inl rfl, fun c => ⟨[], c, rfl, fun left => (left rfl).elim⟩⟩
  | cons d cs ih =>
    obtain ⟨outside, inside⟩ := ih
    constructor
    · rw [skipBlanks]
      split
      · next blank => exact .inr (outside.cons (ne_star_of_isBlank blank))
      · split
        · next sign => exact .inr (inside d)
        · exact .inl rfl
    · intro c
      rw [skipBlanks]
      by_cases ends : d = '\n'
      · subst ends
        exact (outside.cons (by decide)).cons c
      · rw [bne_iff_ne.2 ends]
        exact (inside d).cons c

theorem skips_skipSpace (spaced : Bool) (cs : List Char) : Skips cs (skipSpace spaced cs) := by
  cases spaced with
  | true => exact (skips_skipBlanks cs).1
  | false => exact .inl rfl

theorem skips_scanVisible (other : p '*' = false) (spaced : Bool) (cs : List Char) :
    (∀ limit, Skips cs (scanVisible spaced p false limit cs).2) ∧
      ∀ c limit, Leaves (c :: cs) (scanVisible spaced p true limit cs).2 := by
  induction cs with
  | nil => exact ⟨fun _ => .inl rfl, fun c _ => ⟨[], c, rfl, fun left => (left rfl).elim⟩⟩
  | cons d cs ih =>
    obtain ⟨outside, inside⟩ := ih
    constructor
    · intro limit
      rw [scanVisible]
      split
      · next blank =>
        exact .inr ((outside limit).cons (ne_star_of_isBlank (Bool.and_eq_true_iff.1 blank).2))
      · split
        · exact .inr (inside d limit)
        · split
          · exact .inl rfl
          · next found =>
            have plain : d ≠ '*' := by
              rintro rfl
              simp [other] at found
            exact .inr ((outside _).cons plain)
    · intro c limit
      rw [scanVisible]
      by_cases ends : d = '\n'
      · subst ends
        exact ((outside limit).cons (by decide)).cons c
      · rw [bne_iff_ne.2 ends]
        exact (inside d limit).cons c

theorem skips_dropWhile (other : p '*' = false) (cs : List Char) : Skips cs (cs.dropWhile p) := by
  induction cs with
  | nil => exact .inl rfl
  | cons d cs ih =>
    rw [List.dropWhile_cons]
    split
    · next found =>
      refine .inr (ih.cons ?_)
      rintro rfl
      exact Bool.false_ne_true (other.symm.trans found)
    · exact .inl rfl

/-- What ends with a certain character leaves what stands behind it. The kind of the characters
before it does not matter. -/
theorem leaves_of_dropWhile (plain : c ≠ '*') (found : cs.dropWhile p = c :: rest) :
    Leaves cs rest :=
  ⟨cs.takeWhile p, c, by rw [← found, List.takeWhile_append_dropWhile], fun _ => plain⟩

/-! ### Repetitions and groups -/

theorem skips_scanNumber? {n : Nat} (found : scanNumber? spaced cs = some (n, rest)) :
    Skips cs rest := by
  have blank : Text.isBlank '*' = false := rfl
  have digits := (skips_scanVisible (p := Char.isDigit) rfl spaced (Text.trimStart cs)).1 none
  unfold scanNumber? scanAllVisible at found
  simp only at found
  split at found
  · cases found
  · cases found
    exact (skips_dropWhile blank cs).trans (digits.trans (skips_dropWhile blank _))

theorem skips_scanMark (least : Nat) (most : Option Nat) (cs : List Char) :
    Skips cs (scanMark least most cs).2 := by
  unfold scanMark
  split
  · exact .inr (.single _ (by decide))
  · exact .inl rfl

theorem skips_scanMark_skipSpace {least : Nat} {most : Option Nat} {symbol : Symbol}
    (found : scanMark least most (skipSpace spaced cs) = (symbol, rest)) : Skips cs rest := by
  have marked := skips_scanMark least most (skipSpace spaced cs)
  rw [found] at marked
  exact (skips_skipSpace spaced cs).trans marked

theorem skips_scanCount? {symbol : Symbol} (found : scanCount? spaced cs = some (symbol, rest)) :
    Skips cs rest := by
  unfold scanCount? at found
  obtain ⟨⟨least, behind⟩, first, found⟩ := Option.bind_eq_some_iff.1 found
  refine (skips_scanNumber? first).trans ?_
  simp only at found
  split at found
  · exact .inr ((skips_scanMark_skipSpace (Option.some.inj found)).cons (by decide))
  · next behind =>
    refine .inr (Skips.cons ?_ (by decide))
    refine (skips_skipSpace spaced behind).trans ?_
    split at found
    · next brace =>
      rw [brace]
      exact .inr ((skips_scanMark_skipSpace (Option.some.inj found)).cons (by decide))
    · obtain ⟨⟨most, after⟩, second, found⟩ := Option.bind_eq_some_iff.1 found
      refine (skips_scanNumber? second).trans ?_
      split at found
      · next same =>
        obtain ⟨rfl, rfl⟩ := Prod.mk.inj same
        split at found
        · exact .inr ((skips_scanMark_skipSpace (Option.some.inj found)).cons (by decide))
        · cases found
      · cases found
  · cases found

theorem leaves_of_scanNamed? {symbol : Symbol} (found : scanNamed? cs = some (symbol, rest)) :
    Leaves cs rest := by
  unfold scanNamed? at found
  simp only at found
  split at found
  · next c behind dropped =>
    split at found
    · cases found
      have angle : c = '>' := by
        have stopped := List.head?_dropWhile_not (· != '>') cs
        rw [dropped] at stopped
        simpa using stopped
      subst angle
      exact leaves_of_dropWhile (by decide) dropped
    · cases found
  · cases found

theorem skips_scanGroup? {symbol : Symbol} (found : scanGroup? spaced cs = some (symbol, rest)) :
    Skips cs rest := by
  refine (skips_skipSpace spaced cs).trans ?_
  unfold scanGroup? at found
  generalize skipSpace spaced cs = cs at found
  split at found
  · exact .inr ((((leaves_of_scanNamed? found).cons _).cons _).cons _)
  · exact .inr (((leaves_of_scanNamed? found).cons _).cons _)
  · next inner _ _ =>
    simp only at found
    split at found
    · next dropped =>
      obtain ⟨_, -, same⟩ := Option.map_eq_some_iff.1 found
      cases same
      exact .inr ((leaves_of_dropWhile (by decide) dropped).cons _)
    · next c behind _ dropped =>
      split at found
      · cases found
      · obtain ⟨_, -, same⟩ := Option.map_eq_some_iff.1 found
        cases same
        have plain : c ≠ '*' := by
          have stopped := List.head?_dropWhile_not (fun c => !(c == ':' || c == ')')) inner
          rw [dropped] at stopped
          rintro rfl
          simp at stopped
        exact .inr ((leaves_of_dropWhile plain dropped).cons _)
    · cases found
  · cases found
    exact .inl rfl

/-! ### Escapes -/

theorem skips_scanCode? {count : Nat} {e : Escape}
    (found : scanCode? spaced count cs = some (e, rest)) : Skips cs rest := by
  have digits (cs : List Char) := (skips_scanVisible (p := isHexDigit) rfl spaced cs).1
  refine (skips_skipSpace spaced cs).trans ?_
  unfold scanCode? at found
  generalize skipSpace spaced cs = cs at found
  split at found
  · next inner =>
    have scanned := digits inner none
    simp only [scanAllVisible] at found
    split at found
    · next braced =>
      rw [braced] at scanned
      obtain ⟨_, -, same⟩ := Option.map_eq_some_iff.1 found
      cases same
      exact .inr ((scanned.trans (.inr (.single _ (by decide)))).cons (by decide))
    · cases found
  · simp only at found
    split at found
    · obtain ⟨_, -, same⟩ := Option.map_eq_some_iff.1 found
      cases same
      exact digits cs (some count)
    · cases found

theorem skips_scanWordEdge? {e : Escape} (found : scanWordEdge? spaced cs = some (e, rest)) :
    Skips cs rest := by
  unfold scanWordEdge? at found
  simp only at found
  split at found
  · next inner =>
    have scanned :=
      (skips_scanVisible (p := fun c => c.isAlpha || c == '-') rfl spaced inner).1 none
    simp only [scanAllVisible] at found
    split at found
    · cases found
    · cases found
      exact .inl rfl
    · next named =>
      rw [named] at scanned
      obtain ⟨_, -, same⟩ := Option.map_eq_some_iff.1 found
      cases same
      exact .inr ((scanned.trans (.inr (.single _ (by decide)))).cons (by decide))
    · cases found
  · cases found
    exact .inl rfl

/-- A backslash stands before a single star, or before a text that does not end with one. It is the
only symbol besides the star that may end with one. -/
theorem skips_or_eq_of_scanEscape? {e : Escape} (found : scanEscape? spaced cs = some (e, rest)) :
    Skips cs rest ∨ cs = '*' :: rest := by
  unfold scanEscape? at found
  split at found
  · cases found
  · exact .inl (.inr ((skips_scanWordEdge? found).cons (by decide)))
  · next c cs _ =>
    by_cases star : c = '*'
    · subst star
      obtain ⟨_, -, same⟩ := Option.map_eq_some_iff.1 found
      cases same
      exact .inr rfl
    · refine .inl (.inr (Skips.cons ?_ star))
      split at found
      · exact skips_scanCode? found
      · obtain ⟨_, -, same⟩ := Option.map_eq_some_iff.1 found
        cases same
        exact .inl rfl

theorem isSuffix_of_scanEscape? {e : Escape} (found : scanEscape? spaced cs = some (e, rest)) :
    rest <:+ cs := by
  obtain skips | rfl := skips_or_eq_of_scanEscape? found
  · exact skips.isSuffix
  · exact List.suffix_cons _ _

/-! ### Brackets -/

theorem isSuffix_openBracket (spaced : Bool) (cs : List Char) :
    (openBracket spaced cs).2 <:+ cs := by
  have hyphens (cs : List Char) :=
    ((skips_scanVisible (p := (· == '-')) rfl spaced cs).1 none).isSuffix
  refine List.IsSuffix.trans ?_ (skips_skipSpace spaced cs).isSuffix
  unfold openBracket scanAllVisible
  generalize skipSpace spaced cs = cs
  split
  next inner front =>
  have behindCaret : inner <:+ cs := by
    split at front <;> cases front
    · exact List.suffix_cons _ _
    · exact List.suffix_rfl
  refine List.IsSuffix.trans ?_ behindCaret
  split
  next scanned =>
  have behind := hyphens inner
  rw [scanned] at behind
  split
  · exact (List.suffix_cons _ _).trans behind
  · exact behind

theorem isSuffix_of_scanItem? {first : Option Char} {term : SetTerm}
    (found : scanItem? spaced cs = some (first, term, rest)) : rest <:+ cs := by
  unfold scanItem? at found
  split at found
  · cases found
  · split at found
    · next scanned =>
      cases found
      exact (isSuffix_of_scanEscape? scanned).trans (List.suffix_cons _ _)
    · next scanned =>
      cases found
      exact (isSuffix_of_scanEscape? scanned).trans (List.suffix_cons _ _)
    · cases found
  · cases found
    exact List.suffix_cons _ _

theorem isSuffix_of_scanRange? {term : SetTerm}
    (found : scanRange? spaced cs = some (term, rest)) : rest <:+ cs := by
  unfold scanRange? at found
  obtain ⟨⟨first, item, behind⟩, scanned, found⟩ := Option.bind_eq_some_iff.1 found
  refine List.IsSuffix.trans ?_ (isSuffix_of_scanItem? scanned)
  refine List.IsSuffix.trans ?_ (skips_skipSpace spaced behind).isSuffix
  simp only at found
  generalize skipSpace spaced behind = behind at found
  split at found
  · cases found
  · next behind =>
    split at found
    · cases found
      exact List.suffix_rfl
    · obtain ⟨⟨last, item, after⟩, scanned, ends⟩ := Option.bind_eq_some_iff.1 found
      obtain ⟨a, -, both⟩ := Option.bind_eq_some_iff.1 ends
      obtain ⟨b, -, valid⟩ := Option.bind_eq_some_iff.1 both
      split at valid
      · cases valid
        exact (isSuffix_of_scanItem? scanned).trans
          ((skips_skipSpace spaced behind).isSuffix.trans (List.suffix_cons _ _))
      · cases valid
  · cases found
    exact List.suffix_rfl

theorem isSuffix_of_scanPosix? {term : SetTerm} (found : scanPosix? cs = some (term, rest)) :
    rest <:+ cs := by
  unfold scanPosix? at found
  split at found
  next inner front =>
  have behindCaret : inner <:+ cs := by
    split at front <;> cases front
    · exact List.suffix_cons _ _
    · exact List.suffix_rfl
  refine List.IsSuffix.trans ?_ behindCaret
  split at found
  · next named =>
    obtain ⟨_, -, same⟩ := Option.map_eq_some_iff.1 found
    cases same
    have colon : ':' :: ']' :: _ <:+ inner := named ▸ List.dropWhile_suffix (· != ':')
    exact (List.suffix_cons _ _).trans ((List.suffix_cons _ _).trans colon)
  · cases found

/-- A bracket ends with its closing bracket. Stars inside the bracket stand before that. -/
theorem leaves_of_scanBracket? {steps : Nat} {outer : List OpenBracket} {bracket : OpenBracket}
    {term : SetTerm} (found : scanBracket? spaced steps outer bracket cs = some (term, rest)) :
    Leaves cs rest := by
  induction steps generalizing outer bracket cs with
  | zero => cases found
  | succ steps ih =>
    refine Leaves.of_isSuffix ?_ (skips_skipSpace spaced cs).isSuffix
    unfold scanBracket? at found
    generalize skipSpace spaced cs = cs at found
    split at found
    · cases found
    · split at found
      · cases found
        exact .single _ (by decide)
      · exact (ih found).cons _
    · exact ((ih found).cons _).cons _
    · exact ((ih found).cons _).cons _
    · exact ((ih found).cons _).cons _
    · next inner =>
      refine Leaves.cons ?_ _
      split at found
      · next named =>
        obtain ⟨behind, colon, named⟩ := Option.bind_eq_some_iff.1 named
        rw [Text.stripStart?_eq_some_iff.1 colon]
        exact ((ih found).of_isSuffix (isSuffix_of_scanPosix? named)).cons _
      · exact (ih found).of_isSuffix (isSuffix_openBracket spaced inner)
    · split at found
      · next scanned => exact (ih found).of_isSuffix (isSuffix_of_scanRange? scanned)
      · cases found

theorem leaves_of_scanSet? {steps : Nat} {term : SetTerm}
    (found : scanSet? steps spaced cs = some (term, rest)) : Leaves cs rest :=
  (leaves_of_scanBracket? found).of_isSuffix (isSuffix_openBracket spaced cs)

/-! ### Symbols -/

/-- Behind a symbol, the last character is no star, unless the symbol is the star or a backslash
before one. -/
theorem leaves_of_scanSymbol? {steps : Nat} {symbol : Symbol}
    (found : scanSymbol? steps spaced c cs = some (symbol, rest)) :
    Leaves (c :: cs) rest ∨ (c = '*' ∧ rest <:+ cs ∧ ∃ few, symbol = .count 0 none few) ∨
      c = '\\' ∧ cs = '*' :: rest := by
  have mark {least : Nat} {most : Option Nat} (plain : c ≠ '*')
      (found : some (scanMark least most cs) = some (symbol, rest)) : Leaves (c :: cs) rest := by
    have marked := skips_scanMark least most cs
    rw [Option.some.inj found] at marked
    exact marked.cons plain
  unfold scanSymbol? at found
  split at found
  · cases found; exact .inl (.single _ (by decide))
  · cases found; exact .inl (.single _ (by decide))
  · cases found; exact .inl (.single _ (by decide))
  · cases found; exact .inl (.single _ (by decide))
  · cases found; exact .inl (.single _ (by decide))
  · exact .inl ((skips_scanGroup? found).cons (by decide))
  · have marked := skips_scanMark 0 none cs
    -- A mark of laziness may follow the star, and it changes no bound.
    have star : ∃ few, (scanMark 0 none cs).1 = .count 0 none few := by
      unfold scanMark
      split <;> exact ⟨_, rfl⟩
    rw [Option.some.inj found] at marked star
    exact .inr (.inl ⟨rfl, marked.isSuffix, star⟩)
  · exact .inl (mark (by decide) found)
  · exact .inl (mark (by decide) found)
  · exact .inl ((skips_scanCount? found).cons (by decide))
  · obtain ⟨⟨_, behind⟩, scanned, same⟩ := Option.map_eq_some_iff.1 found
    cases same
    exact .inl ((leaves_of_scanSet? scanned).cons _)
  · obtain ⟨⟨_, behind⟩, scanned, same⟩ := Option.map_eq_some_iff.1 found
    cases same
    obtain skips | star := skips_or_eq_of_scanEscape? scanned
    · exact .inl (skips.cons (by decide))
    · exact .inr (.inr ⟨rfl, star⟩)
  · cases found
    exact .inl (.single _ (by assumption))

theorem isSuffix_of_scanSymbol? {steps : Nat} {symbol : Symbol}
    (found : scanSymbol? steps spaced c cs = some (symbol, rest)) : rest <:+ cs := by
  obtain leaves | ⟨-, suffix, -⟩ | ⟨-, rfl⟩ := leaves_of_scanSymbol? found
  · exact leaves.isSuffix_tail
  · exact suffix
  · exact List.suffix_cons _ _

/-! ### The last symbol -/

/-- What may be left of a text that ends with a dot and a star, as long as something is left. It is
kept while the text is scanned from its start. -/
def EndsDotStar (cs : List Char) : Prop :=
  cs ≠ [] ∧ ∃ front, cs <:+ front ++ ['.', '*']

namespace EndsDotStar

theorem of_isSuffix (h : EndsDotStar cs) (suffix : rest <:+ cs) (some : rest ≠ []) :
    EndsDotStar rest := by
  obtain ⟨-, front, ends⟩ := h
  exact ⟨some, front, suffix.trans ends⟩

theorem exists_eq_concat (h : EndsDotStar cs) : ∃ front, cs = front ++ ['*'] := by
  obtain ⟨some, front, before, same⟩ := h
  obtain rfl | ⟨init, last, rfl⟩ := List.eq_nil_or_concat cs
  · exact (some rfl).elim
  · rw [List.concat_eq_append, ← List.append_assoc, List.append_cons front] at same
    obtain ⟨-, same⟩ := List.append_inj' same rfl
    exact ⟨init, by rw [List.concat_eq_append, same]⟩

/-- In front of the parenthesis, the last character is the star. Nothing but the star leaves just
the parenthesis. -/
theorem not_leaves_closing (h : EndsDotStar cs) : ¬ Leaves (cs ++ closing) closing := by
  rintro ⟨front, last, same, plain⟩
  obtain ⟨before, rfl⟩ := h.exists_eq_concat
  rw [List.append_cons front, List.append_left_inj] at same
  obtain ⟨-, star⟩ := List.append_inj' same rfl
  exact plain (by decide) (List.singleton_inj.1 star).symm

theorem not_escape : ¬ EndsDotStar ['\\', '*'] := by
  rintro ⟨-, front, before, same⟩
  obtain ⟨-, same⟩ := List.append_inj' same rfl
  exact absurd same (by decide)

/-- Something is left behind white space and comments, unless a comment takes the parenthesis. The
star itself is neither white space nor the start of a comment. -/
theorem skipSpace_ne_nil (h : EndsDotStar cs) {steps : Nat} {outer : List Bool}
    {symbols : List Symbol} (closed : scanSymbols? steps spaced outer (cs ++ closing) =
      some (symbols ++ [.closeGroup, .dollar])) : skipSpace spaced cs ≠ [] := by
  intro nothing
  have closes := (Closes.closed cs).skipSpace spaced
  rw [nothing] at closes
  obtain left | lost := closes.eq_of_nil
  · have skips := skips_skipSpace spaced (cs ++ closing)
    rw [left] at skips
    obtain same | leaves := skips
    · exact h.1 (List.append_left_eq_self.1 same)
    · exact h.not_leaves_closing leaves
  · have none := (scanSymbols?_of_eq_nil lost).symm.trans closed
    simp at none

end EndsDotStar

/-- A symbol that leaves nothing of the text, and of the parenthesis behind it everything, is the
star. -/
theorem exists_eq_star_of_scanSymbol? {ds : List Char} {steps : Nat} {symbol : Symbol}
    (ends : EndsDotStar (c :: cs)) (inner : Closes cs ds)
    (found : scanSymbol? steps spaced c ds = some (symbol, closing)) :
    ∃ few, symbol = .count 0 none few := by
  cases inner with
  | lost => cases List.suffix_nil.1 (isSuffix_of_scanSymbol? found)
  | closed =>
    obtain leaves | ⟨-, -, star⟩ | ⟨rfl, alone⟩ := leaves_of_scanSymbol? found
    · exact absurd leaves ends.not_leaves_closing
    · exact star
    · have same : cs ++ closing = ['*'] ++ closing := alone
      obtain rfl : cs = ['*'] := List.append_cancel_right same
      exact absurd ends EndsDotStar.not_escape

theorem scanSymbols?_nil (steps : Nat) (spaced : Bool) (outer : List Bool) :
    scanSymbols? steps spaced outer [] = some [] :=
  scanSymbols?_of_eq_nil (by cases spaced <;> rfl)

/-- The last symbol of a text that ends with a dot and a star is the star, unless a comment takes
the parenthesis behind the text. -/
theorem exists_eq_concat_of_endsDotStar {steps steps' : Nat} {outer : List Bool}
    {symbols : List Symbol} (around : Bool) (le : steps + 2 ≤ steps') (ends : EndsDotStar cs)
    (found : scanSymbols? steps spaced outer cs = some symbols)
    (balanced : openAfter outer.length symbols = some 0)
    (closed : scanSymbols? steps' spaced (outer ++ [around]) (cs ++ closing) =
      some (symbols ++ [.closeGroup, .dollar])) :
    ∃ init few, symbols = init ++ [.count 0 none few] := by
  -- The texts lose the same symbols in front. Where the first one has nothing left, the second one
  -- has the parenthesis, so that the symbol before it is the star.
  induction steps generalizing steps' spaced outer cs symbols with
  | zero =>
    have some := ends.skipSpace_ne_nil closed
    unfold scanSymbols? at found
    split at found
    · contradiction
    · cases found
    · contradiction
  | succ steps ih =>
    obtain ⟨steps', rfl⟩ := Nat.exists_eq_add_of_le' le
    obtain ⟨c, behind, rest⟩ := List.exists_cons_of_ne_nil (ends.skipSpace_ne_nil closed)
    have closes := (Closes.closed cs).skipSpace spaced
    rw [rest] at closes
    obtain ⟨behind', rest', inner⟩ := closes.exists_of_cons
    have ends : EndsDotStar (c :: behind) :=
      ends.of_isSuffix (rest ▸ (skips_skipSpace spaced cs).isSuffix) (List.cons_ne_nil _ _)
    have shorter : steps + 2 ≤ steps' + (steps + 2) := Nat.le_add_left _ _
    have enough : steps + 1 ≤ steps' + (steps + 2) + 1 := by omega
    rw [scanSymbols?_of_eq_cons steps outer rest] at found
    obtain ⟨⟨symbol, after⟩, scanned, remaining⟩ := Option.bind_eq_some_iff.1 found
    obtain ⟨later, read, rfl⟩ := Option.map_eq_some_iff.1 remaining
    obtain ⟨after', scanned', final⟩ := inner.scanSymbol? enough scanned
    obtain ⟨balanced, scopes⟩ : _ ∧ scopesAfter spaced (outer ++ [around]) symbol = _ :=
      scopesAfter_concat around balanced
    have front := scanSymbols?_of_eq_cons (steps' + (steps + 2)) (outer ++ [around]) rest'
    simp only [scanned', Option.bind_some] at front
    rw [scopes] at front
    obtain ⟨later', closed, same⟩ := Option.map_eq_some_iff.1 (front.symm.trans closed)
    obtain rfl := (List.cons.inj same).2
    cases final with
    | lost =>
      have none := (scanSymbols?_nil _ _ _).symm.trans closed
      simp at none
    | closed =>
      by_cases nothing : after = []
      · subst nothing
        obtain rfl := Option.some.inj ((scanSymbols?_nil _ _ _).symm.trans read)
        obtain ⟨few, rfl⟩ := exists_eq_star_of_scanSymbol? ends inner scanned'
        exact ⟨[], few, rfl⟩
      · have suffix := (isSuffix_of_scanSymbol? scanned).trans (List.suffix_cons c behind)
        obtain ⟨init, few, rfl⟩ :=
          ih shorter (ends.of_isSuffix suffix nothing) read balanced closed
        exact ⟨symbol :: init, few, rfl⟩

end StaticWiring.Regex
