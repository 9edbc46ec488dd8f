import Mathlib.Data.List.GetD
import Mathlib.Data.List.Nodup
import StaticWiring.Proofs.Lists
import StaticWiring.Schedule

/-!
# States of a schedule

Every step of a schedule keeps the same facts about its state: the number at a position is the
number of its needs that are not scheduled yet, the ready positions are exactly those without such
needs that are not scheduled themselves, and whatever is scheduled stands behind all that it needs.

## Main definitions

* `Schedule.IsProper` — needs that name positions, each once.
* `Schedule.State.Valid` — the facts that every step keeps.

## Main results

* `Schedule.valid_step` — one step keeps them.
* `Schedule.valid_finalState` — they hold once no position is ready.
-/

namespace StaticWiring.Schedule

/-! ### Needs -/

/-- The needs of every position name positions, each of them once. The needs of wirings are of this
form. -/
def IsProper (needs : List (List Nat)) : Prop :=
  ∀ ds ∈ needs, ds.Nodup ∧ ∀ d ∈ ds, d < needs.length

variable {needs : List (List Nat)}

theorem IsProper.nodup (h : IsProper needs) (i : Nat) : (needs.getD i []).Nodup := by
  rw [List.getD_eq_getElem?_getD]
  cases hi : needs[i]? with
  | none => exact List.nodup_nil
  | some ds => exact (h ds (List.mem_of_getElem? hi)).1

theorem lt_of_mem_needs {i d : Nat} (h : d ∈ needs.getD i []) : i < needs.length := by
  by_contra hi
  rw [List.getD_eq_default _ _ (by omega)] at h
  exact List.not_mem_nil h

theorem mem_dependents {i j : Nat} : j ∈ dependents needs i ↔ i ∈ needs.getD j [] := by
  simp only [dependents, List.mem_map, List.mem_filter, Prod.exists, List.contains_iff_mem]
  constructor
  · rintro ⟨ds, k, ⟨hk, hi⟩, rfl⟩
    rw [List.mem_zipIdx_iff_getElem?] at hk
    simpa [List.getD_eq_getElem?_getD, hk] using hi
  · intro hi
    have hj := lt_of_mem_needs hi
    refine ⟨needs[j], j, ⟨?_, ?_⟩, rfl⟩
    · rw [List.mem_zipIdx_iff_getElem?]
      exact List.getElem?_eq_getElem hj
    · rwa [List.getD_eq_getElem _ _ hj] at hi

theorem nodup_dependents (i : Nat) : (dependents needs i).Nodup := by
  have h : (needs.zipIdx.map Prod.snd).Nodup := by
    rw [List.zipIdx_map_snd]
    exact List.nodup_range' ..
  exact h.sublist (List.filter_sublist.map Prod.snd)

/-! ### Releasing positions -/

theorem mem_ready_release {s : State} {i j : Nat} :
    j ∈ (release s i).ready ↔ j ∈ s.ready ∨ (j = i ∧ s.pending.getD i 0 - 1 = 0) := by
  simp only [release]
  split
  · next h => rw [Ascending.mem_insert_iff, or_comm, and_iff_left h]
  · next h => rw [or_iff_left (fun hj => h hj.2)]

theorem pending_release (s : State) (i j : Nat) :
    (release s i).pending.getD j 0 = s.pending.getD j 0 - if j = i then 1 else 0 := by
  simp only [release, List.getD_eq_getElem?_getD, List.getElem?_set]
  by_cases h : i = j
  · subst h
    by_cases hi : i < s.pending.length
    · simp [hi]
    · simp [hi]
  · simp [h, Ne.symm h]

theorem ascends_ready_release {s : State} (i : Nat) (h : Ascending.Ascends s.ready) :
    Ascending.Ascends (release s i).ready := by
  simp only [release]
  split
  · exact Ascending.ascends_insert h
  · exact h

/-- What releasing a list of distinct positions does to a state. It is the part of a step in which
the counters change. -/
theorem foldl_release {is : List Nat} (nodup : is.Nodup) (s : State) :
    (is.foldl release s).scheduled = s.scheduled ∧
    (is.foldl release s).pending.length = s.pending.length ∧
    (∀ j, (is.foldl release s).pending.getD j 0 =
      s.pending.getD j 0 - if j ∈ is then 1 else 0) ∧
    (Ascending.Ascends s.ready → Ascending.Ascends (is.foldl release s).ready) ∧
    ∀ j, j ∈ (is.foldl release s).ready ↔
      j ∈ s.ready ∨ (j ∈ is ∧ s.pending.getD j 0 - 1 = 0) := by
  induction is generalizing s with
  | nil => simp
  | cons i is ih =>
    obtain ⟨hi, nodup⟩ := List.nodup_cons.1 nodup
    obtain ⟨hs, hl, hp, ha, hr⟩ := ih nodup (release s i)
    refine ⟨hs, ?_, fun j => ?_, fun h => ha (ascends_ready_release i h), fun j => ?_⟩
    · rw [List.foldl_cons, hl]
      simp [release]
    · rw [List.foldl_cons, hp, pending_release]
      by_cases hj : j = i
      · subst hj
        simp [hi]
      · simp [hj]
    · rw [List.foldl_cons, hr, mem_ready_release, pending_release]
      by_cases hj : j = i
      · subst hj
        simp [hi]
      · simp [hj]

/-! ### Valid states -/

/-- What holds in every state of a schedule with the given needs. It is the invariant from which all
results about schedules are derived. -/
structure State.Valid (needs : List (List Nat)) (s : State) : Prop where
  /-- There is a number at every position. -/
  length_pending : s.pending.length = needs.length
  /-- The number is that of the needs that are not scheduled. -/
  pending_eq : ∀ i, s.pending.getD i 0 = ((needs.getD i []).filter (· ∉ s.scheduled)).length
  /-- The ready positions ascend. -/
  ascends_ready : Ascending.Ascends s.ready
  /-- They are the ones without such needs that are not scheduled. -/
  mem_ready : ∀ i, i ∈ s.ready ↔ i < needs.length ∧ s.pending.getD i 0 = 0 ∧ i ∉ s.scheduled
  /-- Every position is scheduled once. -/
  nodup_scheduled : s.scheduled.Nodup
  /-- All that is scheduled is a position. -/
  lt_of_scheduled : ∀ i ∈ s.scheduled, i < needs.length
  /-- All that a position needs is scheduled before it. -/
  needs_before : ∀ k i, s.scheduled[k]? = some i → ∀ d ∈ needs.getD i [], d ∈ s.scheduled.take k

/-- All needs of a scheduled position are scheduled. It had no pending ones when it was taken. -/
theorem State.Valid.mem_scheduled_of_needs {s : State} (h : s.Valid needs) {i d : Nat}
    (hi : i ∈ s.scheduled) (hd : d ∈ needs.getD i []) : d ∈ s.scheduled := by
  obtain ⟨k, hk⟩ := List.getElem?_of_mem hi
  exact List.mem_of_mem_take (h.needs_before k i hk d hd)

/-- A position has no pending needs exactly if all its needs are scheduled. This is how the counter
is read. -/
theorem State.Valid.pending_eq_zero_iff {s : State} (h : s.Valid needs) (i : Nat) :
    s.pending.getD i 0 = 0 ↔ ∀ d ∈ needs.getD i [], d ∈ s.scheduled := by
  rw [h.pending_eq, List.length_eq_zero_iff, List.filter_eq_nil_iff]
  simp

theorem mem_idle {pending : List Nat} {i : Nat} : i ∈ idle pending ↔ pending[i]? = some 0 := by
  simp [idle, List.mem_zipIdx_iff_getElem?]

theorem ascends_idle (pending : List Nat) : Ascending.Ascends (idle pending) := by
  have h : (pending.zipIdx.map Prod.snd).Pairwise (· < ·) := by
    rw [List.zipIdx_map_snd]
    exact List.pairwise_lt_range' ..
  exact (h.sublist (List.filter_sublist.map Prod.snd)).imp Nat.compare_eq_lt.2

theorem valid_start (needs : List (List Nat)) : (start needs).Valid needs where
  length_pending := by simp [start]
  pending_eq i := by
    simp only [start, List.getD_eq_getElem?_getD, List.getElem?_map]
    cases needs[i]? <;> simp
  ascends_ready := ascends_idle _
  mem_ready i := by
    simp only [start, mem_idle, List.getElem?_map, List.getD_eq_getElem?_getD]
    by_cases hi : i < needs.length
    · simp [hi]
    · simp [hi]
  nodup_scheduled := List.nodup_nil
  lt_of_scheduled := by simp [start]
  needs_before := by simp [start]

/-- One more scheduled position is one pending need less for those that need it. Needs are all
different, so that none is counted twice. -/
theorem length_filter_notMem_concat {ds scheduled : List Nat} {i : Nat} (nodup : ds.Nodup)
    (hi : i ∉ scheduled) :
    (ds.filter (· ∉ scheduled ++ [i])).length =
      (ds.filter (· ∉ scheduled)).length - if i ∈ ds then 1 else 0 := by
  have split : ds.filter (· ∉ scheduled ++ [i]) = (ds.filter (· ∉ scheduled)).erase i := by
    rw [(nodup.filter _).erase_eq_filter, List.filter_filter]
    refine List.filter_congr fun d _ => ?_
    by_cases hd : d = i <;> simp [hd]
  rw [split, List.length_erase]
  by_cases h : i ∈ ds <;> simp [h, hi]

/-- The state after the ready position `i` is scheduled. It is the only case in which a step changes
anything. -/
theorem step_of_ready {s : State} {i : Nat} {ready : List Nat} (h : s.ready = i :: ready) :
    step needs s =
      (dependents needs i).foldl release { s with ready, scheduled := s.scheduled ++ [i] } := by
  simp only [step, h]

/-- Everything still stands behind its needs once a position comes last whose needs are
scheduled. -/
theorem State.Valid.needs_before_concat {s : State} (h : s.Valid needs) {i : Nat}
    (done : ∀ d ∈ needs.getD i [], d ∈ s.scheduled) (k j : Nat)
    (hj : (s.scheduled ++ [i])[k]? = some j) :
    ∀ d ∈ needs.getD j [], d ∈ (s.scheduled ++ [i]).take k := by
  rcases Lists.getElem?_concat_cases hj with ⟨hj, before⟩ | ⟨rfl, before⟩
  · rw [before]
    exact h.needs_before k j hj
  · rwa [before]

/-- Once the first ready position is scheduled, the other ones are ready, and those whose last
pending need it was. -/
theorem State.Valid.mem_ready_concat {s : State} (h : s.Valid needs) {i : Nat} {ready : List Nat}
    (hready : s.ready = i :: ready) (j : Nat) :
    (j ∈ ready ∨ i ∈ needs.getD j [] ∧ s.pending.getD j 0 - 1 = 0) ↔
      j < needs.length ∧ (s.pending.getD j 0 - if i ∈ needs.getD j [] then 1 else 0) = 0 ∧
        j ∉ s.scheduled ++ [i] := by
  obtain ⟨-, hzero, hfresh⟩ := (h.mem_ready i).1 (by simp [hready])
  have done := (h.pending_eq_zero_iff i).1 hzero
  have ascends : Ascending.Ascends (i :: ready) := hready ▸ h.ascends_ready
  rw [List.mem_append, List.mem_singleton]
  constructor
  · rintro (hj | ⟨hj, hz⟩)
    · obtain ⟨hlt, hz, hnot⟩ := (h.mem_ready j).1 (by simp [hready, hj])
      have hij : i < j := Nat.compare_eq_lt.1 ((List.pairwise_cons.1 ascends).1 j hj)
      refine ⟨hlt, by rw [hz, Nat.zero_sub], ?_⟩
      rintro (hmem | rfl)
      · exact hnot hmem
      · exact absurd hij (Nat.lt_irrefl j)
    · refine ⟨lt_of_mem_needs hj, by rwa [if_pos hj], ?_⟩
      rintro (hmem | rfl)
      · exact hfresh (h.mem_scheduled_of_needs hmem hj)
      · exact hfresh (done _ hj)
  · rintro ⟨hlt, hz, hnot⟩
    by_cases hj : i ∈ needs.getD j []
    · exact .inr ⟨hj, by rwa [if_pos hj] at hz⟩
    · rw [if_neg hj, Nat.sub_zero] at hz
      have mem := (h.mem_ready j).2 ⟨hlt, hz, fun hmem => hnot (.inl hmem)⟩
      rw [hready, List.mem_cons] at mem
      exact .inl (mem.resolve_left fun heq => hnot (.inr heq))

theorem valid_step (proper : IsProper needs) {s : State} (h : s.Valid needs) :
    (step needs s).Valid needs := by
  cases hready : s.ready with
  | nil => simpa only [step, hready] using h
  | cons i ready =>
    rw [step_of_ready hready]
    obtain ⟨hs, hl, hp, ha, hr⟩ := foldl_release (nodup_dependents i)
      { s with ready, scheduled := s.scheduled ++ [i] }
    generalize (dependents needs i).foldl release
      { s with ready, scheduled := s.scheduled ++ [i] } = t at hs hl hp ha hr ⊢
    -- From here on, only what the releases do to the parts of the state matters.
    simp only [mem_dependents] at hp hr
    obtain ⟨hi, hzero, hfresh⟩ := (h.mem_ready i).1 (by simp [hready])
    have done := (h.pending_eq_zero_iff i).1 hzero
    have ascends : Ascending.Ascends (i :: ready) := hready ▸ h.ascends_ready
    refine ⟨hl.trans h.length_pending, fun j => ?_, ha (List.pairwise_cons.1 ascends).2,
      fun j => ?_, ?_, fun j hj => ?_, ?_⟩
    · rw [hs, hp, h.pending_eq, length_filter_notMem_concat (proper.nodup j) hfresh]
    · rw [hr, hs, hp]
      exact h.mem_ready_concat hready j
    · rw [hs, ← List.concat_eq_append]
      exact h.nodup_scheduled.concat hfresh
    · rw [hs] at hj
      rcases List.mem_append.1 hj with hj | hj
      · exact h.lt_of_scheduled j hj
      · exact List.mem_singleton.1 hj ▸ hi
    · rw [hs]
      exact h.needs_before_concat done

theorem valid_repeat (proper : IsProper needs) (n : Nat) :
    (Nat.repeat (step needs) n (start needs)).Valid needs := by
  induction n with
  | zero => exact valid_start needs
  | succ n ih => exact valid_step proper ih

theorem valid_finalState (proper : IsProper needs) : (finalState needs).Valid needs :=
  valid_repeat proper needs.length

end StaticWiring.Schedule
