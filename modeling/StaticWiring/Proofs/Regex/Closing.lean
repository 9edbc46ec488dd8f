import StaticWiring.Regex.Bracket

/-!
# Texts with a closing parenthesis

Behind the text of an expression, a closing parenthesis and a dollar sign change nothing about what
stands before them: no escape and no bracket looks beyond a closing parenthesis. There is one
exception. Where white space and comments mean nothing, a comment may go on to the end of the text,
and then takes the parenthesis with it.

## Main definitions

* `Regex.Closes` — what is left of a text, and of the same text with the closing parenthesis.

## Main results

* `Regex.Closes.scanEscape?`, `Regex.Closes.scanSet?` — escapes and brackets are read as before.
-/

namespace StaticWiring.Regex

/-- A closing parenthesis and the dollar sign. They stand behind the pattern in its group. -/
def closing : List Char :=
  [')', '$']

/-- What is left of a text, and what is left of it with the closing parenthesis. The two texts are
scanned side by side, and these are the states in which they can be. -/
inductive Closes : List Char → List Char → Prop
  /-- The parenthesis stands behind what is left. -/
  | closed (cs : List Char) : Closes cs (cs ++ closing)
  /-- A comment took it. -/
  | lost : Closes [] []

namespace Closes

variable {cs ds : List Char} {c d : Char} {spaced : Bool} {p : Char → Bool}

theorem eq_of_nil (h : Closes [] ds) : ds = closing ∨ ds = [] := by
  cases h with
  | closed => exact .inl rfl
  | lost => exact .inr rfl

theorem exists_of_cons (h : Closes (c :: cs) ds) : ∃ ds', ds = c :: ds' ∧ Closes cs ds' := by
  cases h with
  | closed => exact ⟨cs ++ closing, rfl, .closed cs⟩

theorem exists_of_cons_cons (h : Closes (c :: d :: cs) ds) :
    ∃ ds', ds = c :: d :: ds' ∧ Closes cs ds' := by
  cases h with
  | closed => exact ⟨cs ++ closing, rfl, .closed cs⟩

/-- A character other than the parenthesis was there before. The parenthesis was not reached. -/
theorem exists_cons (h : Closes cs (d :: ds)) (other : d ≠ ')') :
    ∃ cs', cs = d :: cs' ∧ Closes cs' ds := by
  generalize same : d :: ds = whole at h
  cases h with
  | closed =>
    cases cs with
    | nil => exact absurd (List.cons.inj same).1 other
    | cons c cs =>
      obtain ⟨rfl, rfl⟩ := List.cons.inj same
      exact ⟨cs, rfl, .closed cs⟩
  | lost => cases same

/-- A character other than the parenthesis stands in front of both texts or of none. The scan may
therefore ask for it in both of them alike. -/
theorem cases_head (h : Closes cs ds) (c : Char) (other : c ≠ ')') :
    (∃ cs' ds', cs = c :: cs' ∧ ds = c :: ds' ∧ Closes cs' ds') ∨
      (∀ rest, cs = c :: rest → False) ∧ (∀ rest, ds = c :: rest → False) := by
  by_cases first : ∃ rest, cs = c :: rest
  · obtain ⟨cs', rfl⟩ := first
    obtain ⟨ds', rfl, inner⟩ := h.exists_of_cons
    exact .inl ⟨cs', ds', rfl, rfl, inner⟩
  · refine .inr ⟨fun rest same => first ⟨rest, same⟩, fun rest same => ?_⟩
    subst same
    obtain ⟨cs', same, -⟩ := h.exists_cons other
    exact first ⟨cs', same⟩

theorem ne_cons {a : Char} (h : Closes cs ds) (other : a ≠ ')')
    (absent : ∀ rest, cs ≠ a :: rest) : ∀ rest, ds ≠ a :: rest := by
  rintro rest rfl
  obtain ⟨_, rfl, -⟩ := h.exists_cons other
  exact absent _ rfl

theorem ne_cons_cons {a b : Char} (h : Closes cs ds) (first : a ≠ ')') (second : b ≠ ')')
    (absent : ∀ rest, cs ≠ a :: b :: rest) : ∀ rest, ds ≠ a :: b :: rest := by
  rintro rest rfl
  obtain ⟨_, rfl, inner⟩ := h.exists_cons first
  obtain ⟨_, rfl, -⟩ := inner.exists_cons second
  exact absent _ rfl

theorem ne_nil (h : Closes cs ds) (some : cs ≠ []) : ds ≠ [] := by
  cases h with
  | closed => simp [closing]
  | lost => exact (some rfl).elim

/-! ### Space -/

theorem skipBlanks (h : Closes cs ds) (inComment : Bool) :
    Closes (skipBlanks inComment cs) (skipBlanks inComment ds) := by
  cases h with
  | lost => cases inComment <;> exact .lost
  | closed =>
    induction cs generalizing inComment with
    | nil =>
      cases inComment with
      | true =>
        -- No line feed follows, so that the comment takes the parenthesis.
        exact .lost
      | false => exact .closed []
    | cons c cs ih =>
      cases inComment with
      | true => exact ih _
      | false =>
        simp only [List.cons_append, Regex.skipBlanks]
        split
        · exact ih false
        · split
          · exact ih true
          · exact .closed (c :: cs)

theorem skipSpace (h : Closes cs ds) (spaced : Bool) :
    Closes (skipSpace spaced cs) (skipSpace spaced ds) := by
  cases spaced with
  | true => exact h.skipBlanks false
  | false => exact h

theorem scanVisible (h : Closes cs ds) (stops : p ')' = false) (spaced inComment : Bool)
    (limit : Option Nat) :
    ∃ rest', Regex.scanVisible spaced p inComment limit ds =
        ((Regex.scanVisible spaced p inComment limit cs).1, rest') ∧
      Closes (Regex.scanVisible spaced p inComment limit cs).2 rest' := by
  cases h with
  | lost => exact ⟨[], by cases inComment <;> rfl, by cases inComment <;> exact .lost⟩
  | closed =>
    induction cs generalizing inComment limit with
    | nil =>
      cases inComment with
      | true => exact ⟨[], rfl, .lost⟩
      | false =>
        have kept : Text.isBlank ')' = false := rfl
        have plain : ¬ ')' = '#' := by decide
        refine ⟨closing, ?_, .closed []⟩
        simp [Regex.scanVisible, closing, kept, plain, stops]
    | cons c cs ih =>
      cases inComment with
      | true => exact ih _ limit
      | false =>
        simp only [List.cons_append, Regex.scanVisible]
        split
        · exact ih false limit
        · split
          · exact ih true limit
          · split
            · exact ⟨c :: cs ++ closing, rfl, .closed (c :: cs)⟩
            · obtain ⟨rest', same, closes⟩ := ih false (limit.map (· - 1))
              exact ⟨rest', by rw [same], closes⟩

theorem dropWhile (h : Closes cs ds) (stops : p ')' = false) :
    Closes (cs.dropWhile p) (ds.dropWhile p) := by
  cases h with
  | lost => exact .lost
  | closed =>
    induction cs with
    | nil =>
      have stopped : closing.dropWhile p = closing := by
        rw [closing, List.dropWhile_cons_of_neg (by simp [stops])]
      rw [List.nil_append, stopped]
      exact .closed []
    | cons c cs ih =>
      simp only [List.cons_append, List.dropWhile_cons]
      split
      · exact ih
      · exact .closed (c :: cs)

/-- What is found before the end of a text is found as before. The search ends before the
parenthesis. -/
theorem takeWhile_dropWhile {rest : List Char} (h : Closes cs ds)
    (found : cs.dropWhile p = c :: rest) :
    ds.takeWhile p = cs.takeWhile p ∧
      ∃ rest', ds.dropWhile p = c :: rest' ∧ Closes rest rest' := by
  cases h with
  | lost => cases found
  | closed =>
    induction cs with
    | nil => cases found
    | cons d cs ih =>
      simp only [List.cons_append, List.dropWhile_cons, List.takeWhile_cons] at found ⊢
      split at found
      · next passes =>
        obtain ⟨taken, dropped⟩ := ih found
        rw [if_pos passes, if_pos passes, if_pos passes, taken]
        exact ⟨rfl, dropped⟩
      · next fails =>
        obtain ⟨rfl, rfl⟩ := List.cons.inj found
        rw [if_neg fails, if_neg fails, if_neg fails]
        exact ⟨rfl, _, rfl, .closed cs⟩

/-- What is not found in a text is not found behind its end either. The parenthesis and the dollar
sign would have to be of the kind that is looked for. -/
theorem dropWhile_eq_nil (h : Closes cs ds) (missing : cs.dropWhile p = [])
    (absent : closing.dropWhile p = []) : ds.dropWhile p = [] := by
  cases h with
  | lost => rfl
  | closed =>
    induction cs with
    | nil => exact absent
    | cons c cs ih =>
      simp only [List.cons_append, List.dropWhile_cons] at missing ⊢
      split at missing
      · next passes => rw [if_pos passes, ih missing]
      · cases missing

/-! ### Escapes -/

theorem scanCode? {count : Nat} {e : Escape} {rest : List Char} (h : Closes cs ds)
    (found : Regex.scanCode? spaced count cs = some (e, rest)) :
    ∃ rest', Regex.scanCode? spaced count ds = some (e, rest') ∧ Closes rest rest' := by
  have closes := h.skipSpace spaced
  unfold Regex.scanCode? at found ⊢
  generalize Regex.skipSpace spaced cs = cs at closes found
  generalize Regex.skipSpace spaced ds = ds at closes
  split at found
  · obtain ⟨ds, rfl, inner⟩ := closes.exists_of_cons
    obtain ⟨behind', same, behind⟩ := inner.scanVisible (p := isHexDigit) rfl spaced false none
    simp only [scanAllVisible, same] at found ⊢
    split at found
    · next scanned =>
      rw [scanned] at behind ⊢
      obtain ⟨rest', rfl, closes⟩ := behind.exists_of_cons
      obtain ⟨c, valid, same⟩ := Option.map_eq_some_iff.1 found
      cases same
      exact ⟨rest', by simp only [valid, Option.map_some], closes⟩
    · cases found
  · next plain =>
    have plain' := closes.ne_cons (by decide) plain
    obtain ⟨rest', same, behind⟩ :=
      closes.scanVisible (p := isHexDigit) rfl spaced false (some count)
    simp only [same] at found ⊢
    split at found
    · next enough =>
      obtain ⟨c, valid, same⟩ := Option.map_eq_some_iff.1 found
      cases same
      exact ⟨rest', by rw [if_pos enough, valid]; rfl, behind⟩
    · cases found

theorem scanWordEdge? {e : Escape} {rest : List Char} (h : Closes cs ds)
    (found : Regex.scanWordEdge? spaced cs = some (e, rest)) :
    ∃ rest', Regex.scanWordEdge? spaced ds = some (e, rest') ∧ Closes rest rest' := by
  unfold Regex.scanWordEdge? at found ⊢
  simp only at found ⊢
  split at found
  · next inner =>
    obtain ⟨ds, rfl, closes⟩ := h.exists_of_cons
    obtain ⟨behind', same, behind⟩ :=
      closes.scanVisible (p := fun c => c.isAlpha || c == '-') rfl spaced false none
    simp only [scanAllVisible, same] at found ⊢
    generalize Regex.scanVisible spaced (fun c => c.isAlpha || c == '-') false none inner = scanned
      at found behind
    obtain ⟨name, after⟩ := scanned
    cases after with
    | nil => cases found
    | cons c after =>
      obtain ⟨after', rfl, rest'⟩ := behind.exists_of_cons
      cases name with
      | nil =>
        cases found
        exact ⟨_, rfl, h⟩
      | cons a name =>
        by_cases brace : c = '\x7d'
        · subst brace
          obtain ⟨edge, valid, same⟩ := Option.map_eq_some_iff.1 found
          cases same
          exact ⟨after', by simp only [valid, Option.map_some], rest'⟩
        · simp [brace] at found
  · next plain =>
    have plain' := h.ne_cons (by decide) plain
    cases found
    exact ⟨ds, by simp only, h⟩

theorem scanEscape? {e : Escape} {rest : List Char} (h : Closes cs ds)
    (found : Regex.scanEscape? spaced cs = some (e, rest)) :
    ∃ rest', Regex.scanEscape? spaced ds = some (e, rest') ∧ Closes rest rest' := by
  unfold Regex.scanEscape? at found
  split at found
  · cases found
  · obtain ⟨ds, rfl, inner⟩ := h.exists_of_cons
    exact inner.scanWordEdge? found
  · next c cs other =>
    obtain ⟨ds, rfl, inner⟩ := h.exists_of_cons
    simp only [Regex.scanEscape?]
    cases code : codeDigits? c with
    | some count =>
      simp only [code] at found ⊢
      exact inner.scanCode? found
    | none =>
      simp only [code] at found ⊢
      obtain ⟨e, valid, same⟩ := Option.map_eq_some_iff.1 found
      cases same
      exact ⟨ds, by rw [valid]; rfl, inner⟩

/-! ### Brackets -/

/-- Behind the circumflex that may stand in front of a bracket, nothing else has changed. White
space may stand around it. -/
theorem openBracket (h : Closes cs ds) (spaced : Bool) :
    ∃ rest', Regex.openBracket spaced ds = ((Regex.openBracket spaced cs).1, rest') ∧
      Closes (Regex.openBracket spaced cs).2 rest' := by
  have closes := h.skipSpace spaced
  unfold Regex.openBracket
  generalize Regex.skipSpace spaced cs = cs at closes
  generalize Regex.skipSpace spaced ds = ds at closes
  obtain ⟨cs, ds, rfl, rfl, inner⟩ | ⟨plain, plain'⟩ := closes.cases_head '^' (by decide)
  case' inr => have inner := closes
  all_goals
    obtain ⟨rest', same, hyphens⟩ := inner.scanVisible (p := (· == '-')) rfl spaced false none
    simp only [scanAllVisible, same]
    generalize Regex.scanVisible spaced (· == '-') false none cs = scanned at hyphens
    obtain ⟨found, rest⟩ := scanned
    change Closes rest rest' at hyphens
    obtain ⟨rest, rest', rfl, rfl, behind⟩ | ⟨open_, open'⟩ := hyphens.cases_head ']' (by decide)
    · cases found <;> exact ⟨_, rfl, by assumption⟩
    · cases found with
      | nil =>
        refine ⟨rest', ?_, ?_⟩
        · split
          · exact (open' _ rfl).elim
          · split
            · exact (open_ _ (by assumption)).elim
            · rfl
        · split
          · exact (open_ _ (by assumption)).elim
          · exact hyphens
      | cons => exact ⟨_, rfl, hyphens⟩

theorem scanItem? {first : Option Char} {term : SetTerm} {rest : List Char} (h : Closes cs ds)
    (found : Regex.scanItem? spaced cs = some (first, term, rest)) :
    ∃ rest', Regex.scanItem? spaced ds = some (first, term, rest') ∧ Closes rest rest' := by
  unfold Regex.scanItem? at found
  split at found
  · cases found
  · next cs =>
    obtain ⟨ds, rfl, inner⟩ := h.exists_of_cons
    simp only [Regex.scanItem?]
    split at found
    · next scanned =>
      obtain ⟨rest', same, closes⟩ := inner.scanEscape? scanned
      cases found
      exact ⟨rest', by rw [same], closes⟩
    · next scanned =>
      obtain ⟨rest', same, closes⟩ := inner.scanEscape? scanned
      cases found
      exact ⟨rest', by rw [same], closes⟩
    · cases found
  · next c cs other =>
    obtain ⟨ds, rfl, inner⟩ := h.exists_of_cons
    cases found
    simp only [Regex.scanItem?]
    exact ⟨ds, rfl, inner⟩

/-- A hyphen is told apart from a range by characters other than the parenthesis. Only the next
visible character is looked at. -/
theorem peekBehind_beq (h : Closes cs ds) (spaced : Bool) (other : c ≠ ')') :
    (peekBehind spaced ds == some c) = (peekBehind spaced cs == some c) := by
  have head {cs ds : List Char} (h : Closes cs ds) :
      (ds.head? == some c) = (cs.head? == some c) := by
    cases cs with
    | nil =>
      obtain rfl | rfl := h.eq_of_nil
      · simpa [closing] using Ne.symm other
      · rfl
    | cons d cs =>
      obtain ⟨ds, rfl, -⟩ := h.exists_of_cons
      rfl
  have blank : Text.isBlank ')' = false := rfl
  cases spaced with
  | false => exact head h
  | true =>
    have closes := h.dropWhile blank
    unfold peekBehind
    simp only [if_true]
    generalize cs.dropWhile Text.isBlank = cs at closes
    generalize ds.dropWhile Text.isBlank = ds at closes
    obtain ⟨cs, ds, rfl, rfl, inner⟩ | ⟨plain, plain'⟩ := closes.cases_head '#' (by decide)
    · exact head (inner.dropWhile blank)
    · simp only
      exact head closes

theorem scanRange? {term : SetTerm} {rest : List Char} (h : Closes cs ds)
    (found : Regex.scanRange? spaced cs = some (term, rest)) :
    ∃ rest', Regex.scanRange? spaced ds = some (term, rest') ∧ Closes rest rest' := by
  unfold Regex.scanRange? at found ⊢
  cases item : Regex.scanItem? spaced cs with
  | none => rw [item] at found; cases found
  | some result =>
    obtain ⟨first, start, behind⟩ := result
    obtain ⟨behind', item', closes⟩ := h.scanItem? item
    have closes := closes.skipSpace spaced
    simp only [item, item', Option.bind_eq_bind, Option.bind_some] at found ⊢
    generalize Regex.skipSpace spaced behind = behind at closes found
    generalize Regex.skipSpace spaced behind' = behind' at closes
    split at found
    · cases found
    · obtain ⟨ds, rfl, inner⟩ := closes.exists_of_cons
      -- A hyphen makes a range unless a bracket or a second hyphen follows it.
      simp only [inner.peekBehind_beq spaced (c := ']') (by decide),
        inner.peekBehind_beq spaced (c := '-') (by decide)]
      split at found
      · next single =>
        cases found
        rw [if_pos single]
        exact ⟨_, rfl, closes⟩
      · next range =>
        obtain ⟨⟨last, item, after⟩, scanned, ends⟩ := Option.bind_eq_some_iff.1 found
        obtain ⟨a, rfl, both⟩ := Option.bind_eq_some_iff.1 ends
        obtain ⟨b, same, valid⟩ := Option.bind_eq_some_iff.1 both
        obtain rfl : last = some b := same
        obtain ⟨rest', scanned', final⟩ := (inner.skipSpace spaced).scanItem? scanned
        split at valid
        · next ordered =>
          cases valid
          rw [if_neg range, scanned']
          exact ⟨rest', if_pos ordered, final⟩
        · cases valid
    · next some plain =>
      cases found
      have plain' := closes.ne_cons (by decide) plain
      cases rest with
      | nil => exact (some rfl).elim
      | cons c cs =>
        obtain ⟨ds, rfl, -⟩ := closes.exists_of_cons
        simp only
        exact ⟨_, rfl, closes⟩

/-- A class with a name is found behind the parenthesis if and only if it is before. Its end has to
be found before the parenthesis. -/
theorem scanPosix? (h : Closes cs ds) :
    Regex.scanPosix? cs = none ∧ Regex.scanPosix? ds = none ∨
      ∃ term rest rest', Regex.scanPosix? cs = some (term, rest) ∧
        Regex.scanPosix? ds = some (term, rest') ∧ Closes rest rest' := by
  unfold Regex.scanPosix?
  obtain ⟨cs, ds, rfl, rfl, inner⟩ | ⟨plain, plain'⟩ := h.cases_head '^' (by decide)
  case' inr => have inner := h
  all_goals
    simp only
    cases found : cs.dropWhile (· != ':') with
    | nil => exact .inl ⟨rfl, by rw [inner.dropWhile_eq_nil found (by decide)]⟩
    | cons c rest =>
      obtain ⟨name, rest', found', closes⟩ := inner.takeWhile_dropWhile found
      rw [name, found']
      by_cases named : ∃ behind, c :: rest = ':' :: ']' :: behind
      · obtain ⟨behind, same⟩ := named
        cases same
        obtain ⟨behind', rfl, final⟩ := closes.exists_of_cons
        cases valid : CharSet.posix? (String.ofList (cs.takeWhile (· != ':'))) with
        | none => exact .inl ⟨rfl, rfl⟩
        | some set => exact .inr ⟨_, _, _, rfl, rfl, final⟩
      · refine .inl ⟨?_, ?_⟩
        · split
          · next same => exact (named ⟨_, same⟩).elim
          · rfl
        · split
          · next same =>
            obtain ⟨rfl, rfl⟩ := List.cons.inj same
            obtain ⟨_, rfl, -⟩ := closes.exists_cons (by decide)
            exact (named ⟨_, rfl⟩).elim
          · rfl

theorem stripStart?_scanPosix? (h : Closes cs ds) :
    (Text.stripStart? [':'] cs >>= Regex.scanPosix?) = none ∧
        (Text.stripStart? [':'] ds >>= Regex.scanPosix?) = none ∨
      ∃ term rest rest', (Text.stripStart? [':'] cs >>= Regex.scanPosix?) = some (term, rest) ∧
        (Text.stripStart? [':'] ds >>= Regex.scanPosix?) = some (term, rest') ∧
          Closes rest rest' := by
  have without {cs : List Char} (plain : ∀ rest, cs = ':' :: rest → False) :
      Text.stripStart? [':'] cs = none := by
    rw [Option.eq_none_iff_forall_ne_some]
    exact fun rest same => plain rest (Text.stripStart?_eq_some_iff.1 same)
  obtain ⟨cs, ds, rfl, rfl, inner⟩ | ⟨plain, plain'⟩ := h.cases_head ':' (by decide)
  · exact inner.scanPosix?
  · exact .inl ⟨by rw [without plain]; rfl, by rw [without plain']; rfl⟩

/-- More steps do not change what is read. It is a lemma for the whole bracket, with all brackets
that stand inside. -/
theorem scanBracket? {steps steps' : Nat} {outer : List OpenBracket} {bracket : OpenBracket}
    {term : SetTerm} {rest : List Char} (le : steps ≤ steps') (h : Closes cs ds)
    (found : Regex.scanBracket? spaced steps outer bracket cs = some (term, rest)) :
    ∃ rest', Regex.scanBracket? spaced steps' outer bracket ds = some (term, rest') ∧
      Closes rest rest' := by
  induction steps generalizing steps' outer bracket cs ds with
  | zero => cases found
  | succ steps ih =>
    obtain ⟨steps', rfl⟩ := Nat.exists_eq_add_of_le' (Nat.le_trans (Nat.le_add_left 1 steps) le)
    have le := Nat.le_of_succ_le_succ le
    have closes := h.skipSpace spaced
    -- Both sides have passed over the same blanks, so that the cases see the next characters.
    unfold Regex.scanBracket? at found ⊢
    generalize Regex.skipSpace spaced cs = cs at closes found
    generalize Regex.skipSpace spaced ds = ds at closes
    split at found
    · cases found
    · obtain ⟨ds, rfl, inner⟩ := closes.exists_of_cons
      simp only
      split at found
      · cases found
        exact ⟨ds, rfl, inner⟩
      · exact ih le inner found
    · obtain ⟨_, rfl, inner⟩ := closes.exists_of_cons_cons
      exact ih le inner found
    · obtain ⟨_, rfl, inner⟩ := closes.exists_of_cons_cons
      exact ih le inner found
    · obtain ⟨_, rfl, inner⟩ := closes.exists_of_cons_cons
      exact ih le inner found
    · next rest =>
      obtain ⟨ds, rfl, inner⟩ := closes.exists_of_cons
      simp only
      obtain ⟨none, none'⟩ | ⟨class_, behind, behind', some, some', final⟩ :=
        inner.stripStart?_scanPosix?
      · obtain ⟨behind', same, final⟩ := inner.openBracket spaced
        simp only [none, none', same] at found ⊢
        exact ih le final found
      · simp only [some, some'] at found ⊢
        exact ih le final found
    · next empty close conjunction difference symmetric open_ =>
      -- No operator begins on the one side, and hence none on the other, since a parenthesis is no
      -- part of an operator.
      have conjunction' := closes.ne_cons_cons (by decide) (by decide) conjunction
      have difference' := closes.ne_cons_cons (by decide) (by decide) difference
      have symmetric' := closes.ne_cons_cons (by decide) (by decide) symmetric
      have close' := closes.ne_cons (by decide) close
      have open' := closes.ne_cons (by decide) open_
      have some' := closes.ne_nil empty
      split at found
      · next item behind scanned =>
        obtain ⟨behind', scanned', final⟩ := closes.scanRange? scanned
        simp only [scanned']
        exact ih le final found
      · cases found

theorem scanSet? {steps steps' : Nat} {term : SetTerm} {rest : List Char} (le : steps ≤ steps')
    (h : Closes cs ds) (found : Regex.scanSet? steps spaced cs = some (term, rest)) :
    ∃ rest', Regex.scanSet? steps' spaced ds = some (term, rest') ∧ Closes rest rest' := by
  obtain ⟨inner, same, closes⟩ := h.openBracket spaced
  unfold Regex.scanSet? at found ⊢
  simp only [same]
  exact closes.scanBracket? le found

end Closes

end StaticWiring.Regex
