import StaticWiring.Proofs.Regex.Closing
import StaticWiring.Regex.Symbol

/-!
# Symbols of texts with a closing parenthesis

Every symbol of a text is read as before if the text is followed by a closing parenthesis and a
dollar sign. If all groups of the text are closed, the parenthesis closes the group around it,
unless a comment takes it.

## Main definitions

* `Regex.openAfter`, `Regex.scopesAfter` — the groups that are open behind symbols, and whether the
  text is spaced there.

## Main results

* `Regex.Closes.scanSymbol?` — every symbol is read as before.
* `Regex.scanSymbols?_of_closes` — so are all symbols of a text whose groups are all closed.
-/

namespace StaticWiring.Regex

namespace Closes

variable {cs ds : List Char} {c : Char} {spaced : Bool}

/-! ### Repetitions -/

theorem scanNumber? {n : Nat} {rest : List Char} (h : Closes cs ds)
    (found : Regex.scanNumber? spaced cs = some (n, rest)) :
    ∃ rest', Regex.scanNumber? spaced ds = some (n, rest') ∧ Closes rest rest' := by
  have blank : Text.isBlank ')' = false := rfl
  obtain ⟨behind, same, closes⟩ :=
    (h.dropWhile blank).scanVisible (p := Char.isDigit) rfl spaced false none
  unfold Regex.scanNumber? scanAllVisible Text.trimStart at found ⊢
  simp only [same] at found ⊢
  split at found
  · cases found
  · next valid =>
    cases found
    rw [if_neg valid]
    exact ⟨_, rfl, closes.dropWhile blank⟩

theorem scanMark (h : Closes cs ds) (least : Nat) (most : Option Nat) :
    ∃ rest', Regex.scanMark least most ds = ((Regex.scanMark least most cs).1, rest') ∧
      Closes (Regex.scanMark least most cs).2 rest' := by
  have unmarked {c : Char} (cs : List Char) (other : c ≠ '?') :
      Regex.scanMark least most (c :: cs) = (.count least most false, c :: cs) := by
    unfold Regex.scanMark
    split
    · next same => exact absurd (List.cons.inj same).1 other
    · rfl
  cases cs with
  | nil =>
    obtain rfl | rfl := h.eq_of_nil
    · exact ⟨closing, rfl, .closed []⟩
    · exact ⟨[], rfl, .lost⟩
  | cons c cs =>
    obtain ⟨ds', rfl, rest⟩ := h.exists_of_cons
    by_cases mark : c = '?'
    · subst mark
      exact ⟨ds', rfl, rest⟩
    · rw [unmarked cs mark, unmarked ds' mark]
      exact ⟨c :: ds', rfl, h⟩

/-- The end of a number of repetitions, behind the closing brace. Spaces before it may have been
passed over. -/
theorem scanMark_skipSpace {symbol : Symbol} {rest : List Char} (h : Closes cs ds) {least : Nat}
    {most : Option Nat}
    (found : Regex.scanMark least most (Regex.skipSpace spaced cs) = (symbol, rest)) :
    ∃ rest', Regex.scanMark least most (Regex.skipSpace spaced ds) = (symbol, rest') ∧
      Closes rest rest' := by
  obtain ⟨rest', same, closes⟩ := (h.skipSpace spaced).scanMark least most
  rw [found] at same closes
  exact ⟨rest', same, closes⟩

theorem scanCount? {symbol : Symbol} {rest : List Char} (h : Closes cs ds)
    (found : Regex.scanCount? spaced cs = some (symbol, rest)) :
    ∃ rest', Regex.scanCount? spaced ds = some (symbol, rest') ∧ Closes rest rest' := by
  unfold Regex.scanCount? at found ⊢
  cases first : Regex.scanNumber? spaced cs with
  | none => rw [first] at found; cases found
  | some result =>
    obtain ⟨least, behind⟩ := result
    obtain ⟨behind', first', closes⟩ := h.scanNumber? first
    rw [first] at found
    rw [first']
    simp only [Option.bind_eq_bind, Option.bind_some] at found ⊢
    split at found
    · obtain ⟨rest', rfl, inner⟩ := closes.exists_of_cons
      obtain ⟨rest', same, inner⟩ := inner.scanMark_skipSpace (Option.some.inj found)
      exact ⟨rest', congrArg some same, inner⟩
    · next behind =>
      obtain ⟨rest', rfl, inner⟩ := closes.exists_of_cons
      have inner := inner.skipSpace spaced
      simp only
      split at found
      · next brace =>
        rw [brace] at inner
        obtain ⟨behind', same', inner⟩ := inner.exists_of_cons
        simp only [same']
        obtain ⟨rest', same, inner⟩ := inner.scanMark_skipSpace (Option.some.inj found)
        exact ⟨rest', congrArg some same, inner⟩
      · next open_ =>
        have open' := inner.ne_cons (by decide) open_
        cases second : Regex.scanNumber? spaced (Regex.skipSpace spaced behind) with
        | none => rw [second] at found; cases found
        | some result =>
          obtain ⟨most, after⟩ := result
          obtain ⟨after', second', closes⟩ := inner.scanNumber? second
          simp only [second, second', Option.bind_some] at found ⊢
          split at found
          · next same =>
            obtain ⟨rfl, rfl⟩ := Prod.mk.inj same
            obtain ⟨last, rfl, final⟩ := closes.exists_of_cons
            split at found
            · next ordered =>
              obtain ⟨rest', same, final⟩ := final.scanMark_skipSpace (Option.some.inj found)
              exact ⟨rest', by simp only [if_pos ordered, same], final⟩
            · cases found
          · cases found
    · cases found

/-! ### Groups -/

theorem scanNamed? {symbol : Symbol} {rest : List Char} (h : Closes cs ds)
    (found : Regex.scanNamed? cs = some (symbol, rest)) :
    ∃ rest', Regex.scanNamed? ds = some (symbol, rest') ∧ Closes rest rest' := by
  unfold Regex.scanNamed? at found ⊢
  simp only at found ⊢
  split at found
  · next behind =>
    obtain ⟨name, rest', behind', closes⟩ := h.takeWhile_dropWhile behind
    rw [name, behind']
    split at found
    · next valid =>
      cases found
      exact ⟨rest', if_pos valid, closes⟩
    · cases found
  · cases found

theorem scanGroup? {symbol : Symbol} {rest : List Char} (h : Closes cs ds)
    (found : Regex.scanGroup? spaced cs = some (symbol, rest)) :
    ∃ rest', Regex.scanGroup? spaced ds = some (symbol, rest') ∧ Closes rest rest' := by
  have closes := h.skipSpace spaced
  unfold Regex.scanGroup? at found ⊢
  generalize Regex.skipSpace spaced cs = cs at closes found
  generalize Regex.skipSpace spaced ds = ds at closes
  split at found
  · obtain ⟨_, rfl, first⟩ := closes.exists_of_cons_cons
    obtain ⟨_, rfl, inner⟩ := first.exists_of_cons
    exact inner.scanNamed? found
  · obtain ⟨_, rfl, inner⟩ := closes.exists_of_cons_cons
    exact inner.scanNamed? found
  · next unnamed other =>
    obtain ⟨ds, rfl, inner⟩ := closes.exists_of_cons
    -- A name does not begin with a parenthesis, so the one that is added makes no named group.
    have unnamed' := inner.ne_cons_cons (by decide) (by decide) unnamed
    have other' := inner.ne_cons (by decide) other
    simp only at found ⊢
    split at found
    · next dropped =>
      obtain ⟨letters, rest', dropped', closes⟩ := inner.takeWhile_dropWhile dropped
      rw [← letters] at found
      obtain ⟨change, valid, same⟩ := Option.map_eq_some_iff.1 found
      cases same
      simp only [dropped', valid, Option.map_some]
      exact ⟨rest', rfl, closes⟩
    · next colon dropped =>
      obtain ⟨letters, rest', dropped', closes⟩ := inner.takeWhile_dropWhile dropped
      rw [← letters] at found
      split at found
      · cases found
      · next some =>
        obtain ⟨change, valid, same⟩ := Option.map_eq_some_iff.1 found
        cases same
        simp only [dropped', if_neg some, valid, Option.map_some]
        exact ⟨rest', rfl, closes⟩
    · cases found
  · next plain =>
    have plain' := closes.ne_cons (by decide) plain
    cases found
    refine ⟨ds, ?_, closes⟩
    split
    · exact absurd rfl (plain' _)
    · exact absurd rfl (plain' _)
    · exact absurd rfl (plain' _)
    · rfl

/-! ### Symbols -/

theorem scanSymbol? {steps steps' : Nat} {symbol : Symbol} {rest : List Char} (le : steps ≤ steps')
    (h : Closes cs ds) (found : Regex.scanSymbol? steps spaced c cs = some (symbol, rest)) :
    ∃ rest', Regex.scanSymbol? steps' spaced c ds = some (symbol, rest') ∧ Closes rest rest' := by
  have mark (least : Nat) (most : Option Nat)
      (found : some (Regex.scanMark least most cs) = some (symbol, rest)) :
      ∃ rest', some (Regex.scanMark least most ds) = some (symbol, rest') ∧ Closes rest rest' := by
    obtain ⟨rest', same, closes⟩ := h.scanMark least most
    rw [Option.some.inj found] at same closes
    exact ⟨rest', congrArg some same, closes⟩
  unfold Regex.scanSymbol? at found ⊢
  split at found
  · cases found; exact ⟨ds, rfl, h⟩
  · cases found; exact ⟨ds, rfl, h⟩
  · cases found; exact ⟨ds, rfl, h⟩
  · cases found; exact ⟨ds, rfl, h⟩
  · cases found; exact ⟨ds, rfl, h⟩
  · exact h.scanGroup? found
  · exact mark 0 none found
  · exact mark 1 none found
  · exact mark 0 (some 1) found
  · exact h.scanCount? found
  · obtain ⟨⟨term, behind⟩, scanned, same⟩ := Option.map_eq_some_iff.1 found
    obtain ⟨rest', scanned', closes⟩ := h.scanSet? le scanned
    cases same
    exact ⟨rest', by simp only [scanned', Option.map_some], closes⟩
  · obtain ⟨⟨e, behind⟩, scanned, same⟩ := Option.map_eq_some_iff.1 found
    obtain ⟨rest', scanned', closes⟩ := h.scanEscape? scanned
    cases same
    exact ⟨rest', by simp only [scanned', Option.map_some], closes⟩
  · cases found
    exact ⟨ds, rfl, h⟩

end Closes

/-! ### Texts -/

/-- The number of groups that are open behind symbols, if none is closed that is not open. Scopes
count as groups, and settings do not. -/
def openAfter : Nat → List Symbol → Option Nat
  | n, [] => some n
  | n, .openGroup _ :: symbols => openAfter (n + 1) symbols
  | n, .openScope _ :: symbols => openAfter (n + 1) symbols
  | n + 1, .closeGroup :: symbols => openAfter n symbols
  | 0, .closeGroup :: _ => none
  | n, _ :: symbols => openAfter n symbols

variable {cs ds : List Char} {spaced : Bool} {symbols : List Symbol}

theorem scanSymbols?_of_eq_nil {steps : Nat} {outer : List Bool}
    (nothing : skipSpace spaced cs = []) : scanSymbols? steps spaced outer cs = some [] := by
  unfold scanSymbols?
  rw [nothing]

theorem scanSymbols?_of_eq_closing {steps : Nat} {around : Bool}
    (rest : skipSpace spaced cs = closing) :
    scanSymbols? (steps + 2) spaced [around] cs = some [.closeGroup, .dollar] := by
  have dollar : skipSpace around ['$'] = ['$'] := by cases around <;> rfl
  have done : skipSpace around [] = [] := by cases around <;> rfl
  have last : scanSymbols? (steps + 1) around [] ['$'] = some [.dollar] := by
    unfold scanSymbols?
    simp only [dollar, scanSymbol?, Option.bind_eq_bind, Option.bind_some,
      scanSymbols?_of_eq_nil done]
  unfold scanSymbols?
  simp only [rest, closing, scanSymbol?, Option.bind_eq_bind, Option.bind_some, last]

/-- Whether the text is spaced behind a symbol, and whether it is for the groups around. It is what
the scan keeps track of besides the symbols. -/
def scopesAfter (spaced : Bool) (outer : List Bool) : Symbol → Bool × List Bool
  | .openGroup _ => (spaced, spaced :: outer)
  | .openScope change => (spacedAfter spaced change, spaced :: outer)
  | .setting change => (spacedAfter spaced change, outer)
  | .closeGroup => (outer.headD spaced, outer.tail)
  | _ => (spaced, outer)

theorem scanSymbols?_of_eq_cons (steps : Nat) (outer : List Bool) {c : Char} {rest : List Char}
    (front : skipSpace spaced cs = c :: rest) :
    scanSymbols? (steps + 1) spaced outer cs =
      (scanSymbol? (steps + 1) spaced c rest).bind fun (symbol, rest) =>
        (scanSymbols? steps (scopesAfter spaced outer symbol).1
          (scopesAfter spaced outer symbol).2 rest).map (symbol :: ·) := by
  rw [scanSymbols?.eq_def]
  simp only [front]
  congr 1
  funext ⟨symbol, rest⟩
  cases symbol with
  | closeGroup => cases outer <;> exact Option.map_eq_bind.symm
  | _ => exact Option.map_eq_bind.symm

/-- No symbol closes the group around the text. The scan may therefore be compared with and without
that group. -/
theorem scopesAfter_concat {outer : List Bool} {symbol : Symbol} (around : Bool)
    (balanced : openAfter outer.length (symbol :: symbols) = some 0) :
    openAfter (scopesAfter spaced outer symbol).2.length symbols = some 0 ∧
      scopesAfter spaced (outer ++ [around]) symbol = ((scopesAfter spaced outer symbol).1,
        (scopesAfter spaced outer symbol).2 ++ [around]) := by
  cases symbol with
  | closeGroup =>
    cases outer with
    | nil => cases balanced
    | cons => exact ⟨balanced, rfl⟩
  | openGroup | openScope =>
    exact ⟨by simpa only [openAfter, scopesAfter, List.length_cons] using balanced, rfl⟩
  | _ => exact ⟨by simpa only [openAfter, scopesAfter] using balanced, rfl⟩

/-- Where nothing is left of the text, the parenthesis is, unless a comment took it. A comment goes
on to the end of a line, and takes whatever stands on it. -/
theorem scanSymbols?_of_closes_nil {steps : Nat} (around : Bool) (h : Closes cs ds)
    (nothing : skipSpace spaced cs = []) :
    scanSymbols? (steps + 2) spaced [around] ds = some [.closeGroup, .dollar] ∨
      scanSymbols? (steps + 2) spaced [around] ds = some [] := by
  have closes := h.skipSpace spaced
  rw [nothing] at closes
  obtain left | nothing' := closes.eq_of_nil
  · exact .inl (scanSymbols?_of_eq_closing left)
  · exact .inr (scanSymbols?_of_eq_nil nothing')

/-- Behind the symbols of a text whose groups are all closed, the parenthesis is read as one more
symbol, unless a comment takes it. -/
theorem scanSymbols?_of_closes {steps steps' : Nat} {outer : List Bool} (around : Bool)
    (le : steps + 2 ≤ steps') (h : Closes cs ds)
    (found : scanSymbols? steps spaced outer cs = some symbols)
    (balanced : openAfter outer.length symbols = some 0) :
    scanSymbols? steps' spaced (outer ++ [around]) ds = some (symbols ++ [.closeGroup, .dollar]) ∨
      scanSymbols? steps' spaced (outer ++ [around]) ds = some symbols := by
  -- The texts lose the same symbols in front and stay related; where nothing is left of the first,
  -- no group of it is open, so that the parenthesis closes the one around.
  induction steps generalizing steps' spaced outer cs ds symbols with
  | zero =>
    cases rest : skipSpace spaced cs with
    | nil =>
      obtain ⟨steps', rfl⟩ := Nat.exists_eq_add_of_le' le
      obtain rfl := Option.some.inj ((scanSymbols?_of_eq_nil rest).symm.trans found)
      obtain rfl := List.eq_nil_of_length_eq_zero (Option.some.inj balanced)
      exact scanSymbols?_of_closes_nil around h rest
    | cons c behind =>
      unfold scanSymbols? at found
      simp only [rest] at found
      cases found
  | succ steps ih =>
    obtain ⟨steps', rfl⟩ := Nat.exists_eq_add_of_le' le
    cases rest : skipSpace spaced cs with
    | nil =>
      obtain rfl := Option.some.inj ((scanSymbols?_of_eq_nil rest).symm.trans found)
      obtain rfl := List.eq_nil_of_length_eq_zero (Option.some.inj balanced)
      exact scanSymbols?_of_closes_nil around h rest
    | cons c behind =>
      have closes := h.skipSpace spaced
      rw [rest] at closes
      obtain ⟨behind', rest', inner⟩ := closes.exists_of_cons
      have shorter : steps + 2 ≤ steps' + (steps + 2) := Nat.le_add_left _ _
      have enough : steps + 1 ≤ steps' + (steps + 2) + 1 := by omega
      have front := scanSymbols?_of_eq_cons (steps' + (steps + 2)) (outer ++ [around]) rest'
      rw [scanSymbols?_of_eq_cons steps outer rest] at found
      obtain ⟨⟨symbol, after⟩, scanned, remaining⟩ := Option.bind_eq_some_iff.1 found
      obtain ⟨later, read, rfl⟩ := Option.map_eq_some_iff.1 remaining
      obtain ⟨balanced, scopes⟩ := scopesAfter_concat around balanced
      obtain ⟨after', scanned', final⟩ := inner.scanSymbol? enough scanned
      simp only [scanned', Option.bind_some] at front
      rw [scopes] at front
      refine (ih shorter final read balanced).imp ?_ ?_ <;> intro same <;>
        rw [same] at front <;> exact front

end StaticWiring.Regex
