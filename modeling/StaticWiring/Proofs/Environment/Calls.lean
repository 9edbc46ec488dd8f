import Mathlib.Order.Filter.AtTopBot.Finite
import StaticWiring.Proofs.Environment.Evaluation

/-!
# The calls of expansion

The expansion of a text calls for that of the key of the first placeholder, of what replaces the
placeholder, and of the text behind it. A key is a shorter piece of the text, and is called for at
every level. What replaces a placeholder may be longer than the text, but is called for below the
greatest level only. The text behind a placeholder is a shorter end of the text. So there is no
infinite chain of calls, although keys are called for at levels without bound.

## Main definitions

* `Environment.round` — one round of expansion, which leaves its calls to others.
* `Environment.Calls` — the expansion of a text calls for that of another one.
* `Environment.expandWithin` — expansion with a bound for the chains of calls.

## Main results

* `Environment.calls_iff_of_isFirst` — the calls of a round.
* `Environment.round_expand` — expansion is a round that expansion answers.
* `Environment.wellFounded_calls` — every chain of calls ends.
* `Environment.expansion_terminates` — which calls there are, and that every text is expanded.
-/

namespace StaticWiring

namespace Environment

open Placeholder Relation

variable {env : Environment} {whole : String} {depth : Nat} {caller callee : Nat × List Char}
  {cs before key name text after : List Char} {default : Option (List Char)}
  {answer : Nat → List Char → Option (Except PlaceholderError (List Char))}

/-! ### Rounds -/

/-- One round of the expansion of `cs`: the calls for further texts are left to `answer`. Without
the answer to a call, the round has no result. -/
def round (env : Environment) (whole : String)
    (answer : Nat → List Char → Option (Except PlaceholderError (List Char))) (depth : Nat)
    (cs : List Char) : Option (Except PlaceholderError (List Char)) :=
  match findOpen cs with
  | none => some (.ok cs)
  | some (before, inner) =>
    match closing 0 inner with
    | none => some (.ok cs)
    | some (body, after) =>
      match answer (depth + 1) (splitDefault 0 body).1 with
      | none => none
      | some (.error e) => some (.error e)
      | some (.ok key) =>
        if maxDepth ≤ depth then some (.error ⟨String.ofList key, whole⟩)
        else
          match env.replacement? key (splitDefault 0 body).2 with
          | none => some (.error ⟨String.ofList key, whole⟩)
          | some text =>
            match answer (depth + 1) text with
            | none => none
            | some (.error e) => some (.error e)
            | some (.ok value) =>
              match answer depth after with
              | none => none
              | some (.error e) => some (.error e)
              | some (.ok rest) => some (.ok (before ++ value ++ rest))

theorem round_of_plain (plain : ¬ opening <:+: cs) :
    env.round whole answer depth cs = some (.ok cs) := by
  rw [round, findOpen_eq_none_iff.2 plain]

theorem round_of_isUnclosed (kept : IsUnclosed cs) :
    env.round whole answer depth cs = some (.ok cs) := by
  obtain ⟨before, inner, opened, unclosed⟩ := isUnclosed_iff.1 kept
  simp only [round, opened, unclosed]

/-- A round replaces the first placeholder of a text. The answers are asked for in the order key,
replacement, rest, and the first failure ends the round. -/
theorem round_of_isFirst (found : IsFirst cs before key default after) :
    env.round whole answer depth cs =
      match answer (depth + 1) key with
      | none => none
      | some (.error e) => some (.error e)
      | some (.ok name) =>
        if maxDepth ≤ depth then some (.error ⟨String.ofList name, whole⟩)
        else
          match env.replacement? name default with
          | none => some (.error ⟨String.ofList name, whole⟩)
          | some text =>
            match answer (depth + 1) text with
            | none => none
            | some (.error e) => some (.error e)
            | some (.ok value) =>
              match answer depth after with
              | none => none
              | some (.error e) => some (.error e)
              | some (.ok rest) => some (.ok (before ++ value ++ rest)) := by
  obtain ⟨inner, body, opened, closed, parts⟩ := isFirst_iff.1 found
  simp only [round, opened, closed, parts]

/-! ### Calls -/

/-- All calls but one are answered, by expansion. Leaving out the answer to one call shows whether
the round depends on it. -/
def answerBut (env : Environment) (whole : String) (callee : Nat × List Char) (depth : Nat)
    (cs : List Char) : Option (Except PlaceholderError (List Char)) :=
  if (depth, cs) = callee then none else some (env.expand whole depth cs)

/-- The expansion of a text at a level calls for that of a text at a level: without an answer to
the call, the round has no result. -/
def Calls (env : Environment) (whole : String) (caller callee : Nat × List Char) : Prop :=
  env.round whole (env.answerBut whole callee) caller.1 caller.2 = none

theorem answerBut_self (env : Environment) (whole : String) (depth : Nat) (cs : List Char) :
    env.answerBut whole (depth, cs) depth cs = none :=
  if_pos rfl

theorem answerBut_of_ne (other : (depth, cs) ≠ callee) :
    env.answerBut whole callee depth cs = some (env.expand whole depth cs) :=
  if_neg other

theorem not_calls_of_plain (plain : ¬ opening <:+: cs) :
    ¬ Calls env whole (depth, cs) callee := by
  simp [Calls, round_of_plain plain]

theorem not_calls_of_isUnclosed (kept : IsUnclosed cs) :
    ¬ Calls env whole (depth, cs) callee := by
  simp [Calls, round_of_isUnclosed kept]

/-- A call for what replaces the first placeholder needs the expanded key, and one for the text
behind needs the expanded replacement. -/
theorem calls_iff_of_isFirst (found : IsFirst cs before key default after) :
    Calls env whole (depth, cs) callee ↔
      callee = (depth + 1, key) ∨
      depth < maxDepth ∧ ∃ name text, env.expand whole (depth + 1) key = .ok name ∧
        env.replacement? name default = some text ∧
        (callee = (depth + 1, text) ∨
          callee = (depth, after) ∧ ∃ value, env.expand whole (depth + 1) text = .ok value) := by
  rw [Calls, round_of_isFirst found]
  -- The callee is compared with what the round calls for, in the order of the calls.
  by_cases forKey : (depth + 1, key) = callee
  · subst forKey
    simp [answerBut_self]
  rw [answerBut_of_ne forKey, or_iff_right (Ne.symm forKey)]
  cases env.expand whole (depth + 1) key with
  | error e => simp
  | ok name =>
    by_cases above : maxDepth ≤ depth
    · simp [above]
    have below := Nat.lt_of_not_le above
    simp only [Except.ok.injEq, below, true_and, if_neg above, exists_and_left, exists_eq_left']
    cases env.replacement? name default with
    | none => simp
    | some text =>
      simp only [Option.some.injEq, exists_eq_left']
      by_cases forText : (depth + 1, text) = callee
      · subst forText
        simp [answerBut_self]
      rw [answerBut_of_ne forText, or_iff_right (Ne.symm forText)]
      cases env.expand whole (depth + 1) text with
      | error e => simp
      | ok value =>
        by_cases forRest : (depth, after) = callee
        · subst forRest
          simp [answerBut_self]
        simp only [answerBut_of_ne forRest, Ne.symm forRest, false_and, iff_false]
        cases env.expand whole depth after <;> simp

/-- The key of the first placeholder is called for at every level. The limit is only looked at once
the key is expanded. -/
theorem calls_key (found : IsFirst cs before key default after) (depth : Nat) :
    Calls env whole (depth, cs) (depth + 1, key) :=
  (calls_iff_of_isFirst found).2 (.inl rfl)

/-- A round calls for a few texts only. There are three at most: the key, the replacement and the
rest. -/
theorem finite_calls (env : Environment) (whole : String) (caller : Nat × List Char) :
    {callee | Calls env whole caller callee}.Finite := by
  obtain ⟨depth, cs⟩ := caller
  obtain plain | kept | ⟨before, key, default, after, found⟩ := first_cases cs
  · simp [not_calls_of_plain plain]
  · simp [not_calls_of_isUnclosed kept]
  · have replacements : {text | ∃ name, env.expand whole (depth + 1) key = .ok name ∧
        env.replacement? name default = some text}.Subsingleton := by
      rintro text ⟨name, named, replaces⟩ text' ⟨name', named', replaces'⟩
      obtain rfl := Except.ok.inj (named.symm.trans named')
      exact Option.some.inj (replaces.symm.trans replaces')
    have bound := (replacements.finite.image (depth + 1, ·)).union
      (Set.toFinite {(depth + 1, key), (depth, after)})
    refine bound.subset fun callee calls => ?_
    obtain rfl | ⟨-, name, text, named, replaces, rfl | ⟨rfl, -⟩⟩ :=
      (calls_iff_of_isFirst found).1 calls
    · exact .inr (.inl rfl)
    · exact .inl ⟨text, ⟨name, named, replaces⟩, rfl⟩
    · exact .inr (.inr rfl)

/-- Where its calls are answered by expansion, a round has the result of expansion. Other answers
are never asked for. -/
theorem round_of_forall_calls
    (answers : ∀ callee, Calls env whole (depth, cs) callee →
      answer callee.1 callee.2 = some (env.expand whole callee.1 callee.2)) :
    env.round whole answer depth cs = some (env.expand whole depth cs) := by
  obtain plain | kept | ⟨before, key, default, after, found⟩ := first_cases cs
  · rw [round_of_plain plain, expand_of_not_infix env whole depth plain]
  · rw [round_of_isUnclosed kept, expand_of_isUnclosed env whole depth kept]
  · simp only [calls_iff_of_isFirst found] at answers
    rw [round_of_isFirst found, expand_of_isFirst env whole depth found, answers _ (.inl rfl)]
    cases named : env.expand whole (depth + 1) key with
    | error e => rfl
    | ok name =>
      by_cases above : maxDepth ≤ depth
      · simp only [if_pos above]
      have below := Nat.lt_of_not_le above
      simp only [if_neg above]
      cases replaces : env.replacement? name default with
      | none => rfl
      | some text =>
        dsimp only
        rw [answers _ (.inr ⟨below, name, text, named, replaces, .inl rfl⟩)]
        cases replaced : env.expand whole (depth + 1) text with
        | error e => rfl
        | ok value =>
          dsimp only
          rw [answers _ (.inr ⟨below, name, text, named, replaces, .inr ⟨rfl, value, replaced⟩⟩)]
          cases env.expand whole depth after <;> rfl

/-- Expansion is a round whose calls are answered by expansion. This ties the rounds to the function
that they are read from. -/
theorem round_expand (env : Environment) (whole : String) (depth : Nat) (cs : List Char) :
    env.round whole (fun depth cs => some (env.expand whole depth cs)) depth cs =
      some (env.expand whole depth cs) :=
  round_of_forall_calls fun _ _ => rfl

/-! ### Chains of calls -/

/-- A call is for a shorter piece of the text, or is made below the greatest level, one level
deeper each time, or else it is for a shorter end of the text. -/
theorem Calls.shorter_or_lt (calls : Calls env whole caller callee) :
    callee.1 = caller.1 + 1 ∧
        (callee.2 <:+: caller.2 ∧ callee.2.length < caller.2.length ∨ caller.1 < maxDepth) ∨
      callee.1 = caller.1 ∧ callee.2 <:+ caller.2 ∧ callee.2.length < caller.2.length := by
  obtain ⟨depth, cs⟩ := caller
  obtain plain | kept | ⟨before, key, default, after, found⟩ := first_cases cs
  · exact (not_calls_of_plain plain calls).elim
  · exact (not_calls_of_isUnclosed kept calls).elim
  · obtain rfl | ⟨below, name, text, -, -, rfl | ⟨rfl, -⟩⟩ := (calls_iff_of_isFirst found).1 calls
    · exact .inl ⟨rfl, .inl found.key_infix⟩
    · exact .inl ⟨rfl, .inr below⟩
    · exact .inr ⟨rfl, found.suffix, found.length_lt⟩

/-- There is no infinite chain of calls: a call leaves fewer levels below the greatest one, or as
many levels and a shorter text. -/
theorem wellFounded_calls (env : Environment) (whole : String) :
    WellFounded fun callee caller => Calls env whole caller callee := by
  let measure (call : Nat × List Char) := (maxDepth - call.1, call.2.length)
  have ordered := InvImage.wf measure (WellFounded.prod_lex wellFounded_lt wellFounded_lt)
  refine Subrelation.wf (fun {callee caller} calls => ?_) ordered
  refine Prod.lex_def.2 ?_
  obtain ⟨deeper, ⟨-, shorter⟩ | below⟩ | ⟨same, -, shorter⟩ := calls.shorter_or_lt <;>
    dsimp only [measure] <;> omega

/-- The expansion of a text, with at most `fuel` rounds in a chain of calls. It recurs on the fuel
alone, and says nothing if that does not suffice. -/
def expandWithin (env : Environment) (whole : String) :
    (fuel depth : Nat) → List Char → Option (Except PlaceholderError (List Char))
  | 0 => fun _ _ => none
  | fuel + 1 => env.round whole (expandWithin env whole fuel)

/-- A text is expanded once the chains of calls may be long enough. More fuel than that changes
nothing. -/
theorem exists_expandWithin_eq (env : Environment) (whole : String) (call : Nat × List Char) :
    ∃ enough, ∀ fuel ≥ enough,
      env.expandWithin whole fuel call.1 call.2 = some (env.expand whole call.1 call.2) := by
  rw [← Filter.eventually_atTop]
  induction call using (wellFounded_calls env whole).induction with
  | _ caller ih =>
    have answered := (Filter.eventually_all_finite (finite_calls env whole caller)).2 ih
    obtain ⟨enough, answered⟩ := Filter.eventually_atTop.1 answered
    refine Filter.eventually_atTop.2 ⟨enough + 1, fun fuel ge => ?_⟩
    obtain ⟨fuel, rfl⟩ := Nat.exists_eq_add_of_le' (Nat.le_of_add_left_le ge)
    exact round_of_forall_calls (answered fuel (Nat.le_of_succ_le_succ ge))

/-- Placeholders with placeholders as keys. The keys are as deep as one likes, and none of them has
a value. -/
def nestedKeys : (depth : Nat) → List Char
  | 0 => []
  | depth + 1 => opening ++ (nestedKeys depth ++ ['\x7d'])

theorem nested_nestedKeys (stops : Char → Bool) (depth : Nat) :
    Nested stops (nestedKeys depth) := by
  induction depth generalizing stops with
  | zero => exact .nil
  | succ depth ih => exact .placeholder (ih _) .nil

theorem isFirst_nestedKeys (depth : Nat) :
    IsFirst (nestedKeys (depth + 1)) [] (nestedKeys depth) none [] :=
  ⟨by simp [opening], _, rfl, nested_nestedKeys _ depth, .alone (nested_nestedKeys _ depth)⟩

/-- Keys are called for at levels without bound. The limit on levels alone is therefore not what
ends the expansion. -/
theorem reflTransGen_nestedKeys (env : Environment) (whole : String) (level depth : Nat) :
    ReflTransGen (Calls env whole) (level, nestedKeys depth) (level + depth, []) := by
  induction depth generalizing level with
  | zero => exact .refl
  | succ depth ih =>
    rw [← Nat.add_assoc, Nat.add_right_comm]
    exact .head (calls_key (isFirst_nestedKeys depth) level) (ih (level + 1))

/-- Expansion is a round whose calls it answers itself. A call is for a strictly shorter piece of
the text, or is made below level 32, and is one level deeper; or it is for a strictly shorter end of
the text, at the same level. Keys are called for at every level, and chains of calls reach every
level. Still no chain is infinite, and where the chains may be long enough, every text is
expanded. -/
theorem expansion_terminates (env : Environment) (whole : String) :
    (∀ depth cs, env.round whole (fun depth cs => some (env.expand whole depth cs)) depth cs =
      some (env.expand whole depth cs)) ∧
    (∀ caller callee, Calls env whole caller callee →
      callee.1 = caller.1 + 1 ∧
          (callee.2 <:+: caller.2 ∧ callee.2.length < caller.2.length ∨ caller.1 < 32) ∨
        callee.1 = caller.1 ∧ callee.2 <:+ caller.2 ∧ callee.2.length < caller.2.length) ∧
    (∀ depth cs before key default after, IsFirst cs before key default after →
      Calls env whole (depth, cs) (depth + 1, key)) ∧
    (∀ depth, ∃ text, ReflTransGen (Calls env whole) (0, text) (depth, [])) ∧
    (WellFounded fun callee caller => Calls env whole caller callee) ∧
    ∀ depth cs, ∃ enough, ∀ fuel ≥ enough,
      env.expandWithin whole fuel depth cs = some (env.expand whole depth cs) := by
  refine ⟨env.round_expand whole, fun _ _ calls => calls.shorter_or_lt, ?_, fun depth => ?_,
    wellFounded_calls env whole, fun depth cs => exists_expandWithin_eq env whole (depth, cs)⟩
  · exact fun depth _ _ _ _ _ found => calls_key found depth
  · have chain := reflTransGen_nestedKeys env whole 0 depth
    rw [Nat.zero_add] at chain
    exact ⟨nestedKeys depth, chain⟩

end Environment

end StaticWiring
