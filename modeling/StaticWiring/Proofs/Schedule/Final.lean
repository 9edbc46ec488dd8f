import StaticWiring.Proofs.Schedule.State

/-!
# The end of a schedule

A schedule ends when no position is ready. Every position that is scheduled has all its needs
scheduled, and every other one waits for a position that is not scheduled either. Of the positions
that could come next, the schedule always takes the least one.

## Main definitions

* `Schedule.State.IsGreedy` — every scheduled position was the least one that could come.

## Main results

* `Schedule.ready_finalState` — no position is ready in the final state.
* `Schedule.pending_finalState_eq_zero_iff` — the positions without pending needs are the scheduled
  ones.
* `Schedule.exists_unscheduled_need` — a position that is left over needs another one.
* `Schedule.isGreedy_finalState` — the schedule is greedy.
-/

namespace StaticWiring.Schedule

variable {needs : List (List Nat)} {s : State}

/-- A step schedules the first ready position. Nothing else is scheduled in the step. -/
theorem scheduled_step {i : Nat} {ready : List Nat} (h : s.ready = i :: ready) :
    (step needs s).scheduled = s.scheduled ++ [i] := by
  rw [step_of_ready h, (foldl_release (nodup_dependents i) _).1]

/-! ### The last step -/

/-- After `n` steps, `n` positions are scheduled unless no position was ready before. There are as
many steps as positions, so that one of the two is the case in the end. -/
theorem ready_repeat_or (needs : List (List Nat)) (n : Nat) :
    (Nat.repeat (step needs) n (start needs)).ready = [] ∨
      (Nat.repeat (step needs) n (start needs)).scheduled.length = n := by
  induction n with
  | zero => exact .inr rfl
  | succ n ih =>
    rw [Nat.repeat]
    generalize Nat.repeat (step needs) n (start needs) = s at ih
    cases hready : s.ready with
    | nil => exact .inl (by simp only [step, hready])
    | cons i ready =>
      rw [hready] at ih
      rw [scheduled_step hready, List.length_append, List.length_singleton,
        ih.resolve_left (List.cons_ne_nil i ready)]
      exact .inr rfl

/-- Once all positions are scheduled, none is ready. What is ready would be one more. -/
theorem State.Valid.ready_eq_nil (h : s.Valid needs) (all : s.scheduled.length = needs.length) :
    s.ready = [] := by
  have perm := Lists.perm_range_of_length h.nodup_scheduled h.lt_of_scheduled all
  refine List.eq_nil_iff_forall_not_mem.2 fun i hi => ?_
  obtain ⟨hlt, -, fresh⟩ := (h.mem_ready i).1 hi
  exact fresh (perm.mem_iff.2 (List.mem_range.2 hlt))

theorem ready_finalState (proper : IsProper needs) : (finalState needs).ready = [] := by
  rcases ready_repeat_or needs needs.length with h | h
  · exact h
  · exact (valid_finalState proper).ready_eq_nil h

/-! ### What is left over -/

theorem pending_finalState_eq_zero_iff (proper : IsProper needs) {i : Nat}
    (hi : i < needs.length) :
    (finalState needs).pending.getD i 0 = 0 ↔ i ∈ (finalState needs).scheduled := by
  have valid := valid_finalState proper
  constructor
  · intro zero
    by_contra fresh
    have ready := (valid.mem_ready i).2 ⟨hi, zero, fresh⟩
    rw [ready_finalState proper] at ready
    exact List.not_mem_nil ready
  · intro scheduled
    exact (valid.pending_eq_zero_iff i).2 fun d hd => valid.mem_scheduled_of_needs scheduled hd

/-- A position that is left over needs one that is left over too. Otherwise it would have become
ready in the end. -/
theorem exists_unscheduled_need (proper : IsProper needs) {i : Nat} (hi : i < needs.length)
    (left : i ∉ (finalState needs).scheduled) :
    ∃ d ∈ needs.getD i [], d ∉ (finalState needs).scheduled := by
  rw [← pending_finalState_eq_zero_iff proper hi,
    (valid_finalState proper).pending_eq_zero_iff] at left
  simpa using left

/-! ### The least position that can come -/

/-- Every scheduled position is the least one among those that were not scheduled before it and
whose needs were. -/
def State.IsGreedy (needs : List (List Nat)) (s : State) : Prop :=
  ∀ k i, s.scheduled[k]? = some i → ∀ j < needs.length, j ∉ s.scheduled.take k →
    (∀ d ∈ needs.getD j [], d ∈ s.scheduled.take k) → i ≤ j

theorem isGreedy_start (needs : List (List Nat)) : (start needs).IsGreedy needs := by
  intro k i hi
  simp [start] at hi

/-- The first ready position is the least one that can come. Ready positions ascend, and every
available one is ready. -/
theorem State.Valid.le_of_available (h : s.Valid needs) {i j : Nat} {ready : List Nat}
    (hready : s.ready = i :: ready) (hj : j < needs.length) (fresh : j ∉ s.scheduled)
    (available : ∀ d ∈ needs.getD j [], d ∈ s.scheduled) : i ≤ j := by
  have ascends : Ascending.Ascends (i :: ready) := hready ▸ h.ascends_ready
  have mem : j ∈ s.ready := (h.mem_ready j).2 ⟨hj, (h.pending_eq_zero_iff j).2 available, fresh⟩
  rw [hready] at mem
  rcases List.mem_cons.1 mem with rfl | mem
  · exact Nat.le_refl j
  · exact Nat.le_of_lt (Nat.compare_eq_lt.1 ((List.pairwise_cons.1 ascends).1 j mem))

theorem isGreedy_step (valid : s.Valid needs) (h : s.IsGreedy needs) :
    (step needs s).IsGreedy needs := by
  cases hready : s.ready with
  | nil => simpa only [step, hready] using h
  | cons i ready =>
    intro k j hj
    rw [scheduled_step hready] at hj ⊢
    rcases Lists.getElem?_concat_cases hj with ⟨hj, before⟩ | ⟨rfl, before⟩
    · rw [before]
      exact h k j hj
    · rw [before]
      exact fun l hl fresh available => valid.le_of_available hready hl fresh available

theorem isGreedy_repeat (proper : IsProper needs) (n : Nat) :
    (Nat.repeat (step needs) n (start needs)).IsGreedy needs := by
  induction n with
  | zero => exact isGreedy_start needs
  | succ n ih => exact isGreedy_step (valid_repeat proper n) ih

theorem isGreedy_finalState (proper : IsProper needs) : (finalState needs).IsGreedy needs :=
  isGreedy_repeat proper needs.length

end StaticWiring.Schedule
