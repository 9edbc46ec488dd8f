import StaticWiring.Proofs.Regex.Between
import StaticWiring.Proofs.RegexEngine

/-!
# Texts as expressions

Most characters of an expression stand for themselves, and so does the dot, among others. A text
that consists of them is an expression that matches the text itself.

## Main definitions

* `Regex.Symbol.StandsFor` — a symbol matches a character, among others.

## Main results

* `Regex.testBit_before` — the positions before the characters of a set.
* `Regex.exists_symbols?_of_plain` — the symbols of such a text stand for its characters.
* `Regex.exists_matchesWhole_of_standsFor` — an expression of such symbols matches the text as a
  whole.
-/

namespace StaticWiring.Regex

variable {text : List Char} {starts i : Nat} {c : Char} {symbols : List Symbol}

/-! ### Positions before characters -/

theorem testBit_positionsWhere_after (p : Option Char → Bool) (before : Option Char)
    (here : text[i]? = some c) (h : p (some c)) :
    (positionsWhere (fun _ after => p after) before text).testBit i := by
  induction text generalizing before i with
  | nil => cases here
  | cons d ds ih =>
    rw [positionsWhere]
    cases i with
    | zero =>
      cases here
      rw [if_pos h, Nat.testBit_zero]
      simp
    | succ i =>
      have later := ih (i := i) (some d) here
      rw [Nat.testBit_succ]
      split
      · rwa [show (2 * positionsWhere (fun _ after => p after) (some d) ds + 1) / 2 =
          positionsWhere (fun _ after => p after) (some d) ds by omega]
      · rwa [Nat.add_zero, Nat.mul_div_cancel_left _ Nat.two_pos]

theorem testBit_foldl_or {α : Type} (p : α → Bool) (found : List (α × Nat)) {a : α} {here : Nat}
    (start : Nat) (h : ((a, here) ∈ found ∧ p a ∧ here.testBit i) ∨ start.testBit i) :
    (found.foldl (fun all (a, here) => if p a then all ||| here else all) start).testBit i := by
  induction found generalizing start with
  | nil => simpa using h
  | cons occurrence found ih =>
    simp only [List.foldl_cons]
    refine ih _ ?_
    obtain ⟨member, holds, digit⟩ | digit := h
    · obtain rfl | member := List.mem_cons.1 member
      · rw [if_pos holds, Nat.testBit_or, digit, Bool.or_true]
        exact .inr rfl
      · exact .inl ⟨member, holds, digit⟩
    · split
      · rw [Nat.testBit_or, digit]
        exact .inr rfl
      · exact .inr digit

/-- A character of a set stands behind its position. Positions are bits of a number, and this one is
the bit of the character. -/
theorem testBit_before {set : CharSet} (here : text[i]? = some c) (h : set.contains c) :
    ((Subject.ofText text).before set).testBit i := by
  have listed : (c, positionsWhere (fun _ after => after == some c) none text) ∈
      (Subject.ofText text).occurrences :=
    List.mem_map.2 ⟨c, List.mem_eraseDups.2 (List.mem_of_getElem? here), rfl⟩
  have found := testBit_positionsWhere_after (· == some c) none here (beq_self_eq_true _)
  exact testBit_foldl_or set.contains _ 0 (.inl ⟨listed, h, found⟩)

/-! ### Expressions for one character -/

/-- The expression leads from the position before the character to the one behind it. It may lead to
other positions as well. -/
def Accepts (r : Regex) (c : Char) : Prop :=
  ∀ (text : List Char) (starts i : Nat), text[i]? = some c → starts.testBit i →
    (r.reach text starts).testBit (i + 1)

theorem accepts_of_before {r : Regex} {set : CharSet} (h : set.contains c)
    (walks : ∀ s, walk s r = .forward (s.before set)) : r.Accepts c := by
  intro text starts i here start
  rw [reach, walks, Walk.reach, Nat.testBit_shiftLeft, Nat.add_sub_cancel, Nat.testBit_and, start,
    testBit_before here h]
  simp

theorem accepts_literal (c : Char) : (literal [c]).Accepts c := by
  have own : (CharSet.single c).contains c := by
    simp [CharSet.single, CharSet.contains, CharSet.containsCode, CharSet.inAscending]
  exact accepts_of_before own fun _ => by simp only [walk, Subject.along]

theorem accepts_char {set : CharSet} (h : set.contains c) : (char set).Accepts c :=
  accepts_of_before h fun _ => by simp only [walk]

/-- Expressions for the characters of a text lead along it. The induction is along the text. -/
theorem testBit_through {rs : List Regex} {rest : List Char} (front : List Char)
    (h : List.Forall₂ Accepts rs rest) (start : starts.testBit front.length) :
    (through (front ++ rest) rs starts).testBit (front ++ rest).length := by
  induction h generalizing front starts with
  | nil => rwa [List.append_nil]
  | @cons r c rs rest accepts _ ih =>
    have here : (front ++ c :: rest)[front.length]? = some c := by simp
    have next := accepts _ _ _ here start
    rw [List.append_cons] at next ⊢
    rw [through_cons]
    exact ih (front ++ [c]) (by simpa using next)

/-! ### Symbols -/

/-- The symbol matches the character. Other symbols are not needed for plain texts. -/
inductive Symbol.StandsFor : Symbol → Char → Prop
  /-- The character itself. -/
  | literal (c : Char) : StandsFor (.escape (.literal c false)) c
  /-- A dot is one of those that the dot stands for. -/
  | dot : StandsFor .dot '.'

/-- A text whose characters all stand for themselves is scanned character by character. There is one
symbol for each character. -/
theorem exists_scanSymbols? {steps : Nat} (plain : ∀ c ∈ text, c ∉ RegexEngine.operators)
    (enough : text.length ≤ steps) :
    ∃ symbols, scanSymbols? steps false [] text = some symbols ∧
      List.Forall₂ Symbol.StandsFor symbols text := by
  induction text generalizing steps with
  | nil => exact ⟨[], scanSymbols?_of_eq_nil rfl, .nil⟩
  | cons c text ih =>
    obtain ⟨steps, rfl⟩ := Nat.exists_eq_add_of_le' (Nat.le_trans (Nat.le_add_left 1 _) enough)
    obtain ⟨own, others⟩ := List.forall_mem_cons.1 plain
    obtain ⟨symbols, scanned, all⟩ := ih others (Nat.le_of_succ_le_succ enough)
    have first : ∃ symbol, scanSymbol? (steps + 1) false c text = some (symbol, text) ∧
        symbol.StandsFor c := by
      by_cases dot : c = '.'
      · subst dot
        exact ⟨.dot, rfl, .dot⟩
      · refine ⟨_, ?_, .literal c⟩
        unfold scanSymbol?
        split <;> first | rfl | exact absurd rfl dot | exact absurd (by decide) own
    obtain ⟨symbol, first, stands⟩ := first
    have visible : skipSpace false (c :: text) = c :: text := rfl
    refine ⟨symbol :: symbols, ?_, .cons stands all⟩
    rw [scanSymbols?_of_eq_cons steps [] visible, first]
    cases stands <;> simp only [Option.bind_some, scopesAfter, scanned, Option.map_some]

theorem exists_symbols?_of_plain (plain : ∀ c ∈ text, c ∉ RegexEngine.operators) :
    ∃ symbols, symbols? text = some symbols ∧ List.Forall₂ Symbol.StandsFor symbols text :=
  exists_scanSymbols? plain (Nat.le_refl _)

/-! ### The expression -/

theorem exists_read? {symbol : Symbol} (h : symbol.StandsFor c) (items : List Nested) :
    ∃ r, Group.read? { items } symbol = some { items := { regex := r } :: items } ∧
      r.Accepts c := by
  cases h with
  | literal =>
    have unicode : Settings.has {} .unicode = true := rfl
    have exactCase : Settings.has {} .ignoreCase = false := rfl
    refine ⟨literal [c], ?_, accepts_literal c⟩
    simp [Group.read?, Group.add, Settings.escape?, Settings.literal, Settings.closeUnderCase,
      unicode, exactCase, ofSet, CharSet.single?, CharSet.single]
  | dot => exact ⟨char ⟨[(0, 9), (11, 0x10FFFF)]⟩, rfl, accepts_char rfl⟩

theorem exists_readSymbols? (h : List.Forall₂ Symbol.StandsFor symbols text) (names : List String)
    (kept : Nat) (items : List Nested) :
    ∃ rs, readSymbols? [] names kept { items } symbols =
        some (Nested.sequence (items.reverse ++ rs.map fun r => { regex := r })) ∧
      List.Forall₂ Accepts rs text := by
  induction h generalizing items with
  | nil => exact ⟨[], by simp [readSymbols?, Group.content, Nested.anyOf], .nil⟩
  | @cons symbol c symbols text stands _ ih =>
    obtain ⟨r, read, accepts⟩ := exists_read? stands items
    obtain ⟨rs, rest, all⟩ := ih ({ regex := r } :: items)
    refine ⟨r :: rs, ?_, .cons accepts all⟩
    cases stands <;> simp [readSymbols?, read, rest]

/-- An expression whose symbols stand for the characters of a text matches the text as a whole. A
pattern without operators therefore matches itself. -/
theorem exists_matchesWhole_of_standsFor {pattern : List Char} {text : String}
    (scanned : symbols? pattern = some symbols)
    (h : List.Forall₂ Symbol.StandsFor symbols text.toList) :
    ∃ r, read? pattern = some r ∧ r.matchesWhole text := by
  obtain ⟨rs, read, accepts⟩ := exists_readSymbols? h [] 0 []
  have along := testBit_through [] accepts Nat.testBit_one_zero
  refine ⟨(Nested.sequence (rs.map fun r => { regex := r })).regex, ?_, ?_⟩
  · rw [read?, scanned]
    exact congrArg (Option.map (·.regex)) read
  · have own : (rs.map fun r => ({ regex := r } : Nested)).map Nested.regex = rs := by
      rw [List.map_map]
      exact List.map_id rs
    rw [matchesWhole, Nested.reach_sequence _ (start_lt _), own]
    exact along

end StaticWiring.Regex
