import Mathlib.Logic.Relation
import StaticWiring.Proofs.Environment.Nesting

/-!
# What texts with placeholders stand for

A text without an opening stands for itself, and so does a text whose first placeholder is not
closed. Otherwise the first placeholder is replaced by what the value of the property with its
evaluated key stands for, or, if there is no such property, by what its default stands for, and the
text behind it is evaluated likewise. Keys, values and defaults are one level deeper than the
placeholder. A text is resolved to what it stands for, as long as no placeholder is met at the
greatest level or below; a text that needs itself stands for nothing.

## Main definitions

* `Environment.Evaluates` — a text stands for another one.
* `Environment.Needs` — a text cannot be evaluated unless another one is.

## Main results

* `Environment.expand_eq_ok_iff` — expansion computes evaluation.
* `Environment.not_evaluates_of_cycle` — a text that needs itself stands for nothing.
* `Environment.resolve_eq_ok_iff` — when a text is resolved, and what is reported otherwise.
-/

namespace StaticWiring

namespace Environment

open Placeholder

variable {env : Environment} {whole : String} {bound level depth : Nat}
  {cs before key name text after result rest : List Char} {default : Option (List Char)}

/-! ### Evaluation -/

/-- The text `cs`, met at a nesting level, stands for a text by a derivation with placeholders at
levels below `bound` only. -/
inductive Evaluates (env : Environment) (bound : Nat) : (level : Nat) → List Char → List Char → Prop
  /-- A text without placeholders stands for itself. -/
  | literal {level : Nat} {cs : List Char} (plain : ¬ opening <:+: cs) :
    Evaluates env bound level cs cs
  /-- A placeholder that is not closed is kept with all that follows. -/
  | unclosed {level : Nat} {cs : List Char} (kept : IsUnclosed cs) :
    Evaluates env bound level cs cs
  /-- A placeholder is replaced by the value of a property. -/
  | property {level : Nat} {cs before key name text after rest : List Char}
    {default : Option (List Char)} {value : String}
    (found : IsFirst cs before key default after) (below : level < bound)
    (named : Evaluates env bound (level + 1) key name)
    (present : env.get? (String.ofList name) = some value)
    (replaced : Evaluates env bound (level + 1) value.toList text)
    (further : Evaluates env bound level after rest) :
    Evaluates env bound level cs (before ++ text ++ rest)
  /-- A placeholder is replaced by its default where there is no property. -/
  | default {level : Nat} {cs before key name default text after rest : List Char}
    (found : IsFirst cs before key (some default) after) (below : level < bound)
    (named : Evaluates env bound (level + 1) key name)
    (absent : env.get? (String.ofList name) = none)
    (replaced : Evaluates env bound (level + 1) default text)
    (further : Evaluates env bound level after rest) :
    Evaluates env bound level cs (before ++ text ++ rest)

/-! ### Expansion -/

theorem expand_of_not_infix (env : Environment) (whole : String) (depth : Nat)
    (plain : ¬ opening <:+: cs) : env.expand whole depth cs = .ok cs := by
  rw [expand]
  split
  · rfl
  · next found =>
    rw [findOpen_eq_none_iff.2 plain] at found
    cases found

theorem expand_of_isUnclosed (env : Environment) (whole : String) (depth : Nat)
    (kept : IsUnclosed cs) : env.expand whole depth cs = .ok cs := by
  obtain ⟨before, inner, opened, unclosed⟩ := isUnclosed_iff.1 kept
  rw [expand]
  split
  · rfl
  · next found =>
    cases opened.symm.trans found
    split
    · rfl
    · next found =>
      rw [unclosed] at found
      cases found

/-- The first placeholder is expanded in a text: its key, what it is replaced by, and what
follows. -/
theorem expand_of_isFirst (env : Environment) (whole : String) (depth : Nat)
    (found : IsFirst cs before key default after) :
    env.expand whole depth cs =
      match env.expand whole (depth + 1) key with
      | .error e => .error e
      | .ok name =>
        if maxDepth ≤ depth then .error ⟨String.ofList name, whole⟩
        else
          match env.replacement? name default with
          | none => .error ⟨String.ofList name, whole⟩
          | some text =>
            match env.expand whole (depth + 1) text with
            | .error e => .error e
            | .ok value =>
              match env.expand whole depth after with
              | .error e => .error e
              | .ok rest => .ok (before ++ value ++ rest) := by
  obtain ⟨inner, body, opened, closed, parts⟩ := isFirst_iff.1 found
  obtain ⟨rfl, rfl⟩ := Prod.ext_iff.1 parts
  rw [expand]
  split
  · next none => cases opened.symm.trans none
  · next found =>
    cases opened.symm.trans found
    split
    · next none => cases closed.symm.trans none
    · next found =>
      cases closed.symm.trans found
      rfl

/-- A placeholder is replaced by the value of its property, and where there is none by its
default. -/
theorem replacement?_eq_some_iff :
    env.replacement? name default = some text ↔
      (∃ value, env.get? (String.ofList name) = some value ∧ value.toList = text) ∨
        env.get? (String.ofList name) = none ∧ default = some text := by
  unfold replacement?
  cases env.get? (String.ofList name) <;> simp

/-- Expansion computes evaluation. The induction goes along the expansion, so that every failure is
met as well. -/
theorem expand_eq_ok_iff (whole : String) :
    env.expand whole depth cs = .ok result ↔ Evaluates env maxDepth depth cs result := by
  constructor
  · intro h
    -- The cases of the function are the rules, apart from the failures in between.
    fun_induction expand env whole depth cs generalizing result
    case case1 opened =>
      cases h
      exact .literal (findOpen_eq_none_iff.1 opened)
    case case2 opened closed =>
      cases h
      exact .unclosed (isUnclosed_iff.2 ⟨_, _, opened, closed⟩)
    case case3 | case4 | case5 | case6 | case7 => cases h
    case case8 opened _ _ closed _ _ named above _ replaces _ replaced _ further ihKey ihValue
        ihRest =>
      cases h
      have first := isFirst_iff.2 ⟨_, _, opened, closed, rfl⟩
      have below := Nat.lt_of_not_le above
      obtain ⟨_, present, rfl⟩ | ⟨absent, stated⟩ := replacement?_eq_some_iff.1 replaces
      · exact .property first below (ihKey named) present (ihValue replaced) (ihRest further)
      · rw [stated] at first
        exact .default first below (ihKey named) absent (ihValue replaced) (ihRest further)
  · intro h
    induction h with
    | literal plain => exact expand_of_not_infix env whole _ plain
    | unclosed kept => exact expand_of_isUnclosed env whole _ kept
    | property found below _ present _ _ named replaced further =>
      rw [expand_of_isFirst env whole _ found, named]
      simp only [Nat.not_le.2 below, if_false, replacement?, present, replaced, further]
    | default found below _ absent _ _ named replaced further =>
      rw [expand_of_isFirst env whole _ found, named]
      simp only [Nat.not_le.2 below, if_false, replacement?, absent, replaced, further]

/-- A failure reports the whole text. It does so at whatever depth the failure occurs. -/
theorem value_of_expand_eq_error {e : PlaceholderError}
    (h : env.expand whole depth cs = .error e) : e.value = whole := by
  fun_induction expand env whole depth cs generalizing e
  case case1 | case2 | case8 => cases h
  case case3 failed ih | case6 failed _ ih | case7 failed _ _ ih =>
    cases h
    exact ih failed
  case case4 | case5 =>
    cases h
    rfl

/-! ### Texts that need themselves -/

/-- At a level that is less deep, a text stands for the same. The derivation is the same, with more
room left below the bound. -/
theorem Evaluates.mono (h : Evaluates env bound level cs result) {level' : Nat}
    (le : level' ≤ level) : Evaluates env bound level' cs result := by
  induction h generalizing level' with
  | literal plain => exact .literal plain
  | unclosed kept => exact .unclosed kept
  | property found below _ present _ _ named replaced further =>
    have deeper := Nat.succ_le_succ le
    exact .property found (Nat.lt_of_le_of_lt le below) (named deeper) present (replaced deeper)
      (further le)
  | default found below _ absent _ _ named replaced further =>
    have deeper := Nat.succ_le_succ le
    exact .default found (Nat.lt_of_le_of_lt le below) (named deeper) absent (replaced deeper)
      (further le)

/-- A text stands for one text at most, whatever the level is. Expansion is a function, and its
result does not depend on the level. -/
theorem Evaluates.unique {level' : Nat} {result' : List Char}
    (h : Evaluates env maxDepth level cs result) (h' : Evaluates env maxDepth level' cs result') :
    result = result' := by
  have first := (expand_eq_ok_iff "").2 (h.mono (Nat.zero_le level))
  have second := (expand_eq_ok_iff "").2 (h'.mono (Nat.zero_le level'))
  exact Except.ok.inj (first.symm.trans second)

/-- The parts of the first placeholder of a text that stands for another one. It inverts the
derivation, and tells that the level is below the bound. -/
theorem Evaluates.of_isFirst (h : Evaluates env bound level cs result)
    (found : IsFirst cs before key default after) :
    level < bound ∧ ∃ name text replaced rest, Evaluates env bound (level + 1) key name ∧
      env.replacement? name default = some text ∧ Evaluates env bound (level + 1) text replaced ∧
      Evaluates env bound level after rest ∧ result = before ++ replaced ++ rest := by
  cases h with
  | literal plain => exact (plain found.infix).elim
  | unclosed kept => exact (found.not_isUnclosed kept).elim
  | property found' below named present replaced further =>
    obtain ⟨rfl, rfl, rfl, rfl⟩ := found.unique found'
    refine ⟨below, _, _, _, _, named, ?_, replaced, further, rfl⟩
    exact replacement?_eq_some_iff.2 (.inl ⟨_, present, rfl⟩)
  | default found' below named absent replaced further =>
    obtain ⟨rfl, rfl, rfl, rfl⟩ := found.unique found'
    refine ⟨below, _, _, _, _, named, ?_, replaced, further, rfl⟩
    exact replacement?_eq_some_iff.2 (.inr ⟨absent, rfl⟩)

/-- The first text cannot be evaluated unless the second is: the key of its first placeholder, what
replaces that placeholder, or the text behind it. -/
inductive Needs (env : Environment) : List Char → List Char → Prop
  /-- The key of a placeholder. -/
  | key {cs before key after : List Char} {default : Option (List Char)}
    (found : IsFirst cs before key default after) : Needs env cs key
  /-- The value of the property with the evaluated key, or else the default. -/
  | replacement {level : Nat} {cs before key name text after : List Char}
    {default : Option (List Char)} (found : IsFirst cs before key default after)
    (named : Evaluates env maxDepth level key name)
    (replaces : env.replacement? name default = some text) : Needs env cs text
  /-- The text behind a placeholder. -/
  | rest {cs before key after : List Char} {default : Option (List Char)}
    (found : IsFirst cs before key default after) : Needs env cs after

/-- What a text needs is evaluated at a deeper level, or is shorter. This is why a chain of needs
cannot go on for ever. -/
theorem Evaluates.of_needs (h : Evaluates env maxDepth level cs result)
    (needs : Needs env cs text) :
    level < maxDepth ∧ ∃ level' result', Evaluates env maxDepth level' text result' ∧
      (level < level' ∨ level = level' ∧ text.length < cs.length) := by
  cases needs with
  | key found =>
    obtain ⟨below, _, _, _, _, named, -⟩ := h.of_isFirst found
    exact ⟨below, _, _, named, .inl (Nat.lt_succ_self level)⟩
  | replacement found named' replaces' =>
    obtain ⟨below, _, _, _, _, named, replaces, replaced, -⟩ := h.of_isFirst found
    obtain rfl := named.unique named'
    obtain rfl := Option.some.inj (replaces.symm.trans replaces')
    exact ⟨below, _, _, replaced, .inl (Nat.lt_succ_self level)⟩
  | rest found =>
    obtain ⟨below, _, _, _, _, -, -, -, further, -⟩ := h.of_isFirst found
    exact ⟨below, _, _, further, .inr ⟨rfl, found.length_lt⟩⟩

theorem Evaluates.of_transGen (h : Evaluates env maxDepth level cs result)
    (needs : Relation.TransGen (Needs env) cs text) :
    level < maxDepth ∧ ∃ level' result', Evaluates env maxDepth level' text result' ∧
      (level < level' ∨ level = level' ∧ text.length < cs.length) := by
  induction needs with
  | single needs => exact h.of_needs needs
  | tail _ needs ih =>
    obtain ⟨below, _, _, evaluates, before⟩ := ih
    obtain ⟨-, level', result', evaluates', behind⟩ := evaluates.of_needs needs
    exact ⟨below, level', result', evaluates', by omega⟩

/-- A text that needs itself stands for nothing: each time that it is met again, it would be met at
a deeper level. -/
theorem not_evaluates_of_cycle (cycle : Relation.TransGen (Needs env) cs cs) :
    ¬ Evaluates env maxDepth level cs result := by
  intro h
  induction gap : maxDepth - level using Nat.strong_induction_on generalizing level result with
  | _ gap ih =>
    obtain ⟨below, level', result', again, deeper⟩ := h.of_transGen cycle
    exact ih (maxDepth - level') (by omega) again rfl

/-- A text that leads to one that needs itself stands for nothing. What it needs would have to be
evaluated on the way. -/
theorem not_evaluates_of_reflTransGen_cycle (leads : Relation.ReflTransGen (Needs env) cs text)
    (cycle : Relation.TransGen (Needs env) text text) :
    ¬ Evaluates env maxDepth level cs result := by
  intro h
  obtain rfl | needs := Relation.reflTransGen_iff_eq_or_transGen.1 leads
  · exact not_evaluates_of_cycle cycle h
  · obtain ⟨-, _, _, evaluates, -⟩ := h.of_transGen needs
    exact not_evaluates_of_cycle cycle evaluates

/-! ### Resolution -/

/-- Where a text stands for nothing, the report carries the text. The text is the one that was asked
for, and not the part that failed. -/
theorem exists_resolve_eq_error {text : String}
    (nothing : ¬ ∃ result, Evaluates env maxDepth 0 text.toList result) :
    ∃ e, env.resolve text = .error e ∧ e.value = text := by
  cases expanded : env.expand text 0 text.toList with
  | ok result => exact (nothing ⟨result, (expand_eq_ok_iff text).1 expanded⟩).elim
  | error e => exact ⟨e, by rw [resolve, expanded]; rfl, value_of_expand_eq_error expanded⟩

/-- A text is resolved exactly to what it stands for by a derivation without placeholders at level
32 or below. Otherwise the report carries the whole text; so it does for a text that leads to one
that needs itself. -/
theorem resolve_eq_ok_iff (env : Environment) (text : String) :
    (∀ result : String,
      env.resolve text = .ok result ↔ Evaluates env 32 0 text.toList result.toList) ∧
    ((¬ ∃ result, Evaluates env 32 0 text.toList result) →
      ∃ e, env.resolve text = .error e ∧ e.value = text) ∧
    ((∃ circular, Relation.ReflTransGen (Needs env) text.toList circular ∧
        Relation.TransGen (Needs env) circular circular) →
      ∃ e, env.resolve text = .error e ∧ e.value = text) := by
  refine ⟨fun result => ?_, exists_resolve_eq_error, ?_⟩
  · rw [show 32 = maxDepth from rfl, ← expand_eq_ok_iff text, resolve]
    cases env.expand text 0 text.toList with
    | ok expanded => simp [Except.map, ← String.toList_inj]
    | error e => simp [Except.map]
  · rintro ⟨circular, leads, cycle⟩
    refine exists_resolve_eq_error ?_
    rintro ⟨result, h⟩
    exact not_evaluates_of_reflTransGen_cycle leads cycle h

end Environment

/-! ### Two properties that refer to each other -/

namespace Sample

open Environment Placeholder

/-- The value of each of two properties is a placeholder for the other one. Neither has a value that
does not depend on the other one. -/
def circularEnvironment : Environment :=
  ofSources [⟨"circular", [("a", "$\x7bb\x7d"), ("b", "$\x7ba\x7d")]⟩]

theorem isFirst_letter {before : List Char} (first : ¬ opening <:+: before) {key : Char}
    (letter : key ≠ '\x7d' ∧ key ≠ ':') :
    IsFirst (before ++ ['$', '\x7b', key, '\x7d']) before [key] none [] := by
  have plain : ¬ opening <+: [key] := fun starts => by simp [opening] at starts
  have nested {stops : Char → Bool} (passes : stops key = false) : Nested stops [key] :=
    .char letter.1 passes plain .nil
  exact ⟨first, [key], rfl, nested rfl, .alone (nested (beq_false_of_ne letter.2))⟩

theorem evaluates_letter (key : Char) : Evaluates circularEnvironment maxDepth 0 [key] [key] :=
  .literal fun ⟨before, after, text⟩ => by
    have length := congrArg List.length text
    simp [opening] at length
    omega

/-- A text that ends with a placeholder of one letter needs the value of the property. The key is
the letter itself, and there is no default. -/
theorem needs_value (before : List Char) (first : ¬ opening <:+: before) {key : Char}
    (letter : key ≠ '\x7d' ∧ key ≠ ':') {value : String}
    (present : circularEnvironment.get? (String.ofList [key]) = some value) :
    Needs circularEnvironment (before ++ ['$', '\x7b', key, '\x7d']) value.toList :=
  .replacement (isFirst_letter first letter) (evaluates_letter key)
    (replacement?_eq_some_iff.2 (.inl ⟨value, present, rfl⟩))

end Sample

/-- Behind one character, a text asks for a property that leads back to itself. The report carries
the text with the character in front. -/
theorem Environment.resolve_eq_ok_iff_circular :
    (∃ circular,
      Relation.ReflTransGen (Needs Sample.circularEnvironment) "x$\x7ba\x7d".toList circular ∧
      Relation.TransGen (Needs Sample.circularEnvironment) circular circular) ∧
    ∃ e, Sample.circularEnvironment.resolve "x$\x7ba\x7d" = .error e ∧
      e.value = "x$\x7ba\x7d" := by
  have nothing : ¬ Placeholder.opening <:+: [] := by decide
  have started : Needs Sample.circularEnvironment "x$\x7ba\x7d".toList "$\x7bb\x7d".toList :=
    Sample.needs_value ['x'] (by decide) (by decide) (by decide)
  have onward : Needs Sample.circularEnvironment "$\x7bb\x7d".toList "$\x7ba\x7d".toList :=
    Sample.needs_value [] nothing (by decide) (by decide)
  have back : Needs Sample.circularEnvironment "$\x7ba\x7d".toList "$\x7bb\x7d".toList :=
    Sample.needs_value [] nothing (by decide) (by decide)
  have leads := Relation.ReflTransGen.single started
  have cycle := Relation.TransGen.tail (.single onward) back
  exact ⟨⟨_, leads, cycle⟩, (resolve_eq_ok_iff _ _).2.2 ⟨_, leads, cycle⟩⟩

end StaticWiring
