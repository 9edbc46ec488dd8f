import StaticWiring.Proofs.Regex.Reach

/-!
# Expressions from their parts

The functions that build expressions bring them into a simple form without a change of what they
lead to: a sequence leads along its parts, one after the other, and a choice to all that its parts
reach. Alternatives that are all sets of characters are joined to one set; this does not happen
where one of the alternatives ends with a repetition.

## Main definitions

* `Regex.EndsRepeated` — an expression that ends with a repetition.

## Main results

* `Regex.reach_sequence` — the positions that a sequence leads to.
* `Regex.reach_ofAlternatives` — those that a choice leads to.
-/

namespace StaticWiring.Regex

variable {text : List Char} {starts : Nat}

/-! ### Equality -/

mutual

theorem eq_of_same : (r s : Regex) → r.same s = true → r = s
  | empty, s, h => by cases s <;> simp_all [same]
  | literal _, s, h => by cases s <;> simp_all [same]
  | char _, s, h => by cases s <;> simp_all [same]
  | anchor _, s, h => by cases s <;> simp_all [same]
  | group _ r, s, h => by
    cases s with
    | group n s =>
      simp only [same, Bool.and_eq_true, beq_iff_eq] at h
      rw [h.1, eq_of_same r s h.2]
    | _ => simp [same] at h
  | concat rs, s, h => by
    cases s with
    | concat ss => rw [eq_of_allSame rs ss (by simpa only [same] using h)]
    | _ => simp [same] at h
  | alternation rs, s, h => by
    cases s with
    | alternation ss => rw [eq_of_allSame rs ss (by simpa only [same] using h)]
    | _ => simp [same] at h
  | repetition _ r _ _, s, h => by
    cases s with
    | repetition _ s _ _ =>
      simp only [same, Bool.and_eq_true, beq_iff_eq] at h
      obtain ⟨⟨⟨rfl, inner⟩, rfl⟩, rfl⟩ := h
      rw [eq_of_same r s inner]
    | _ => simp [same] at h

theorem eq_of_allSame : (rs ss : List Regex) → allSame rs ss = true → rs = ss
  | [], ss, h => by cases ss <;> simp_all [allSame]
  | r :: rs, ss, h => by
    cases ss with
    | nil => simp [allSame] at h
    | cons s ss =>
      simp only [allSame, Bool.and_eq_true] at h
      rw [eq_of_same r s h.1, eq_of_allSame rs ss h.2]

end

/-! ### Sequences -/

theorem through_items (r : Regex) (h : starts < 2 ^ (text.length + 1)) :
    through text r.items starts = r.reach text starts := by
  cases r with
  | empty => exact (reach_empty h).symm
  | concat rs => exact (reach_concat rs h).symm
  | literal | char | anchor | group | alternation | repetition => rfl

theorem through_flatMap_items (rs : List Regex) (h : starts < 2 ^ (text.length + 1)) :
    through text (rs.flatMap items) starts = through text rs starts := by
  induction rs generalizing starts with
  | nil => rfl
  | cons r rs ih =>
    rw [List.flatMap_cons, through_append, through_items r h, ih (reach_lt r h), through_cons]

theorem through_putBefore (r : Regex) (rest : List Regex) (h : starts < 2 ^ (text.length + 1)) :
    through text (putBefore r rest) starts = through text (r :: rest) starts := by
  unfold putBefore
  split
  · rw [through_cons, through_cons, through_cons, reach_literal_append _ _ h]
  · rfl

theorem through_foldr_putBefore (rs : List Regex) (h : starts < 2 ^ (text.length + 1)) :
    through text (rs.foldr putBefore []) starts = through text rs starts := by
  induction rs generalizing starts with
  | nil => rfl
  | cons r rs ih =>
    rw [List.foldr_cons, through_putBefore r _ h, through_cons, ih (reach_lt r h), through_cons]

/-- A sequence leads along its parts, one after the other. Parts of parts are joined when the
sequence is made, which changes nothing. -/
theorem reach_sequence (rs : List Regex) (h : starts < 2 ^ (text.length + 1)) :
    (sequence rs).reach text starts = through text rs starts := by
  rw [← through_flatMap_items rs h, ← through_foldr_putBefore _ h, sequence]
  split
  · next none => rw [none, reach_empty h]; rfl
  · next single => rw [single]; rfl
  · exact reach_concat _ h

/-! ### Expressions that end with a repetition -/

/-- The expression ends with a repetition. Such an expression is no set of characters, and is not
joined with others. -/
inductive EndsRepeated : Regex → Prop
  /-- A repetition. -/
  | single (fewFirst : Bool) (r : Regex) (least : Nat) (most : Option Nat) :
    EndsRepeated (repetition fewFirst r least most)
  /-- A repetition behind other parts. -/
  | behind (parts : List Regex) (fewFirst : Bool) (r : Regex) (least : Nat) (most : Option Nat) :
    EndsRepeated (concat (parts ++ [repetition fewFirst r least most]))

theorem exists_foldr_putBefore (rs : List Regex) (fewFirst : Bool) (r : Regex) (least : Nat)
    (most : Option Nat) : ∃ parts, (rs ++ [repetition fewFirst r least most]).foldr putBefore [] =
      parts ++ [repetition fewFirst r least most] := by
  induction rs with
  | nil => exact ⟨[], rfl⟩
  | cons s rs ih =>
    obtain ⟨parts, ih⟩ := ih
    rw [List.cons_append, List.foldr_cons, ih]
    unfold putBefore
    split
    · next a b rest same =>
      -- The first part of the rest is joined to a literal, and the repetition is none.
      cases parts with
      | nil => cases same
      | cons p parts =>
        obtain ⟨-, rfl⟩ := List.cons.inj same
        exact ⟨literal (a ++ b) :: parts, rfl⟩
    · exact ⟨_ :: parts, rfl⟩

theorem endsRepeated_sequence (rs : List Regex) (fewFirst : Bool) (r : Regex) (least : Nat)
    (most : Option Nat) : (sequence (rs ++ [repetition fewFirst r least most])).EndsRepeated := by
  obtain ⟨parts, last⟩ := exists_foldr_putBefore (rs.flatMap items) fewFirst r least most
  have flat : (rs ++ [repetition fewFirst r least most]).flatMap items =
      rs.flatMap items ++ [repetition fewFirst r least most] := by
    rw [List.flatMap_append]
    rfl
  rw [sequence, flat, last]
  cases parts with
  | nil => exact .single fewFirst r least most
  | cons p parts =>
    rw [List.cons_append]
    split
    · next none => cases none
    · next single => simp at single
    · next parts' _ _ => exact .behind (p :: parts) fewFirst r least most

/-! ### Choices -/

theorem among_alternatives (r : Regex) :
    among text r.alternatives starts = r.reach text starts := by
  cases r with
  | alternation rs => exact (reach_alternation rs).symm
  | empty | literal | char | anchor | group | concat | repetition => exact Nat.or_zero _

theorem among_flatMap_alternatives (rs : List Regex) :
    among text (rs.flatMap alternatives) starts = among text rs starts := by
  induction rs with
  | nil => rfl
  | cons r rs ih => rw [List.flatMap_cons, among_append, among_alternatives, ih, among_cons]

/-- The expression is one alternative, and no set of characters. It is kept as it is when a choice
is made. -/
structure IsPlainAlternative (r : Regex) : Prop where
  /-- It is no choice itself. -/
  alternatives : r.alternatives = [r]
  /-- It is no set. -/
  set : r.set? = none

theorem EndsRepeated.isPlainAlternative {r : Regex} (h : r.EndsRepeated) :
    r.IsPlainAlternative := by
  cases h <;> exact ⟨rfl, rfl⟩

theorem commonSet?_eq_none {rs : List Regex} {r : Regex} (member : r ∈ rs)
    (plain : r.IsPlainAlternative) : commonSet? rs = none := by
  have sets : rs.mapM set? = none := by
    induction rs with
    | nil => cases member
    | cons s rs ih =>
      rw [List.mapM_cons]
      obtain rfl | member := List.mem_cons.1 member
      · rw [plain.set]; rfl
      · rw [ih member]
        cases s.set? <;> rfl
  rw [commonSet?, sets]
  rfl

/-- A choice with an alternative that is no set joins no sets. The two cases are a choice between
several expressions and a single one. -/
theorem choice_cases {rs : List Regex} {r : Regex} (member : r ∈ rs)
    (plain : r.IsPlainAlternative) :
    choice rs = alternation (rs.flatMap alternatives) ∨
      rs.flatMap alternatives = [r] ∧ choice rs = r := by
  have flat : r ∈ rs.flatMap alternatives :=
    List.mem_flatMap.2 ⟨r, member, plain.alternatives ▸ List.mem_singleton_self r⟩
  rw [choice]
  split
  · next s single =>
    rw [single, List.mem_singleton] at flat
    exact .inr ⟨flat ▸ single, flat.symm⟩
  · rw [commonSet?_eq_none flat plain]
    exact .inl rfl

theorem reach_choice {rs : List Regex} {r : Regex} (member : r ∈ rs)
    (plain : r.IsPlainAlternative) : (choice rs).reach text starts = among text rs starts := by
  rw [← among_flatMap_alternatives]
  obtain several | ⟨single, one⟩ := choice_cases member plain
  · rw [several, reach_alternation]
  · rw [single, one]
    exact (Nat.or_zero _).symm

/-! ### What alternatives start with -/

theorem commonStart_prefix : (rs ss : List Regex) →
    commonStart rs ss <+: rs ∧ commonStart rs ss <+: ss
  | r :: rs, s :: ss => by
    rw [commonStart]
    split
    · next same =>
      obtain rfl := eq_of_same r s same
      obtain ⟨left, right⟩ := commonStart_prefix rs ss
      exact ⟨(List.prefix_cons_inj r).2 left, (List.prefix_cons_inj r).2 right⟩
    · exact ⟨List.nil_prefix, List.nil_prefix⟩
  | [], _ => ⟨List.nil_prefix, List.nil_prefix⟩
  | _ :: _, [] => ⟨List.nil_prefix, List.nil_prefix⟩

theorem foldl_commonStart_prefix (others : List (List Regex)) (first : List Regex) :
    others.foldl commonStart first <+: first ∧
      ∀ parts ∈ others, others.foldl commonStart first <+: parts := by
  induction others generalizing first with
  | nil => exact ⟨List.prefix_rfl, fun parts member => nomatch member⟩
  | cons next others ih =>
    obtain ⟨left, right⟩ := commonStart_prefix first next
    obtain ⟨start, rest⟩ := ih (commonStart first next)
    rw [List.foldl_cons]
    exact ⟨start.trans left, List.forall_mem_cons.2 ⟨start.trans right, rest⟩⟩

theorem eq_map_concat_of_mapM {rs : List Regex} {sequences : List (List Regex)}
    (h : rs.mapM sequence? = some sequences) : rs = sequences.map concat := by
  induction rs generalizing sequences with
  | nil =>
    cases h
    rfl
  | cons r rs ih =>
    rw [List.mapM_cons] at h
    cases first : r.sequence? with
    | none => rw [first] at h; cases h
    | some parts =>
      cases others : rs.mapM sequence? with
      | none => rw [first, others] at h; cases h
      | some rest =>
        rw [first, others] at h
        cases h
        rw [List.map_cons, ← ih others]
        cases r with
        | concat ps => cases first; rfl
        | empty | literal | char | anchor | group | alternation | repetition => cases first

/-- Sequences that start alike lead to what their rests reach from where the start leads. A common
start may thus be taken out of a choice. -/
theorem among_map_concat {start : List Regex} {sequences : List (List Regex)}
    (alike : ∀ parts ∈ sequences, start <+: parts) (h : starts < 2 ^ (text.length + 1)) :
    among text (sequences.map concat) starts =
      among text (sequences.map fun parts => sequence (parts.drop start.length))
        (through text start starts) := by
  induction sequences with
  | nil => rfl
  | cons parts sequences ih =>
    obtain ⟨⟨rest, rfl⟩, others⟩ := List.forall_mem_cons.1 alike
    rw [List.map_cons, List.map_cons, among_cons, among_cons, ih others, reach_concat _ h,
      through_append, List.drop_left, reach_sequence rest (through_lt start h)]

/-- What is left of an expression that ends with a repetition is no set. The repetition at the end
is still there, or nothing is left. -/
theorem EndsRepeated.isPlainAlternative_drop {parts : List Regex}
    (h : (concat parts).EndsRepeated) (n : Nat) :
    (sequence (parts.drop n)).IsPlainAlternative := by
  generalize same : concat parts = r at h
  cases h with
  | single => cases same
  | behind init fewFirst r least most =>
    cases same
    by_cases short : n ≤ init.length
    · rw [List.drop_append_of_le_length short]
      exact (endsRepeated_sequence _ _ _ _ _).isPlainAlternative
    · rw [List.drop_eq_nil_of_le (by simp; omega)]
      exact ⟨rfl, rfl⟩

/-- A choice leads to all that its alternatives reach. One of them ends with a repetition here.
Making the choice may take out common starts and join sets, which leads to the same positions. -/
theorem reach_ofAlternatives {rs : List Regex} {r : Regex} (member : r ∈ rs)
    (repeats : r.EndsRepeated) (h : starts < 2 ^ (text.length + 1)) :
    (ofAlternatives rs).reach text starts = among text rs starts := by
  have plain := repeats.isPlainAlternative
  rw [← reach_choice member plain, ofAlternatives]
  obtain several | ⟨-, one⟩ := choice_cases member plain
  · rw [several]
    have flat : r ∈ rs.flatMap alternatives :=
      List.mem_flatMap.2 ⟨r, member, plain.alternatives ▸ List.mem_singleton_self r⟩
    generalize rs.flatMap alternatives = alternatives at flat
    dsimp only
    split
    · next first others sequences =>
      split
      · rfl
      · next start =>
        obtain ⟨left, right⟩ := foldl_commonStart_prefix others first
        have alike := List.forall_mem_cons.2 ⟨left, right⟩
        have listed := eq_map_concat_of_mapM sequences
        rw [listed] at flat ⊢
        obtain ⟨parts, known, same⟩ := List.mem_map.1 flat
        -- The alternative that ends with a repetition keeps the rests from being joined to a set.
        have rest := (same ▸ repeats).isPlainAlternative_drop
          (others.foldl commonStart first).length
        rw [reach_alternation, among_map_concat alike h, reach_sequence _ h, through_append,
          ← reach_choice (List.mem_map_of_mem known) rest]
        rfl
    · rfl
  · rw [one]
    cases repeats <;> rfl

end StaticWiring.Regex
