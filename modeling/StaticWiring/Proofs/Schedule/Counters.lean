import StaticWiring.Proofs.Ascending
import StaticWiring.Proofs.Schedule.Order

/-!
# The counters of a schedule

Every position of a schedule has a counter. Between two steps it shows how many definitions the
wiring there still waits for, and a step that schedules a position counts down, one by one, the
positions that wait for it. No counter is counted down below zero and no position becomes ready
twice, also where several wirings have one name, of which the last one counts, and where a wiring
mentions itself.

## Main definitions

* `Schedule.IsLast` — the last wiring with a name.
* `Schedule.State.take` — a state in the middle of a step, before anything is counted down.
* `Schedule.entries` — the positions that have become ready, in order.

## Main results

* `Schedule.position?_eq_some_iff` — names stand for their last positions.
* `Schedule.perm_entries` — what has become ready is scheduled or still ready.
* `Schedule.counters_balanced` — the counters of every state.
-/

namespace StaticWiring.Schedule

/-! ### The last wiring with a name -/

/-- The position holds the last wiring with the name. An earlier one of the same name is never meant
by a reference. -/
def IsLast (ws : List Wiring) (name : String) (i : Nat) : Prop :=
  (ws.map (·.definition.name))[i]? = some name ∧
    ∀ j, i < j → (ws.map (·.definition.name))[j]? ≠ some name

theorem pairwise_zipIdx_reverse (names : List String) :
    names.zipIdx.reverse.Pairwise fun a b => b.2 < a.2 := by
  have positions : (names.zipIdx.map Prod.snd).Pairwise (· < ·) := by
    rw [List.zipIdx_map_snd]
    exact List.pairwise_lt_range' ..
  exact List.pairwise_reverse.2 (List.pairwise_map.1 positions)

/-- No later position holds the name than the one that it stands for. Looking up a name thus finds
the last one. -/
theorem le_of_position? {names : List String} {name : String} {i j : Nat}
    (h : position? names name = some i) (hj : names[j]? = some name) : j ≤ i := by
  obtain ⟨before, after, split, other⟩ := List.lookup_eq_some_iff.1 h
  have member : (name, j) ∈ before ++ (name, i) :: after := by
    rw [← split, List.mem_reverse]
    exact List.mem_zipIdx_iff_getElem?.2 hj
  have descends := pairwise_zipIdx_reverse names
  rw [split] at descends
  obtain earlier | member := List.mem_append.1 member
  · simpa using other _ earlier
  · obtain same | later := List.mem_cons.1 member
    · exact Nat.le_of_eq (congrArg Prod.snd same)
    · exact Nat.le_of_lt (List.rel_of_pairwise_cons (List.pairwise_append.1 descends).2.1 later)

/-- A name stands for its last position. The lookup may be replaced by this description. -/
theorem position?_eq_some_iff {ws : List Wiring} {name : String} {i : Nat} :
    position? (ws.map (·.definition.name)) name = some i ↔ IsLast ws name i := by
  constructor
  · intro h
    refine ⟨getElem?_of_position? h, fun j later hj => ?_⟩
    exact absurd (le_of_position? h hj) (Nat.not_le.2 later)
  · rintro ⟨hi, last⟩
    obtain ⟨j, hj⟩ := exists_position? (List.mem_of_getElem? hi)
    obtain here | later := Nat.eq_or_lt_of_le (le_of_position? hj hi)
    · rwa [here]
    · exact absurd (getElem?_of_position? hj) (last j later)

/-! ### What is pending -/

/-- The definitions that a wiring mentions and whose last wirings are not scheduled yet. A
definition that is mentioned several times counts once. -/
def outstanding (ws : List Wiring) (scheduled : List Nat) (w : Wiring) : List String :=
  w.references.filter fun name =>
    (position? (ws.map (·.definition.name)) name).any (· ∉ scheduled)

theorem mem_outstanding {ws : List Wiring} {scheduled : List Nat} {w : Wiring} {name : String} :
    name ∈ outstanding ws scheduled w ↔
      w.Mentions name ∧ ∃ d, IsLast ws name d ∧ d ∉ scheduled := by
  simp only [outstanding, List.mem_filter, Wiring.mem_references, Option.any_eq_true,
    decide_eq_true_eq, position?_eq_some_iff]

theorem nodup_outstanding (ws : List Wiring) (scheduled : List Nat) (w : Wiring) :
    (outstanding ws scheduled w).Nodup :=
  (Lists.nodup_eraseDups _).filter _

/-- The counter of a position shows the definitions that its wiring still waits for. It is the
meaning of the counters in all states of a schedule. -/
theorem State.Valid.getElem?_pending {ws : List Wiring} {s : State} (h : s.Valid (needs ws))
    {i : Nat} {w : Wiring} (hw : ws[i]? = some w) :
    s.pending[i]? = some (outstanding ws s.scheduled w).length := by
  have inside : i < s.pending.length := by
    rw [h.length_pending, length_needs]
    exact (List.getElem?_eq_some_iff.1 hw).1
  have here : (needs ws).getD i [] =
      w.references.filterMap (position? (ws.map (·.definition.name))) := by
    rw [List.getD_eq_getElem?_getD, needs, List.getElem?_map, hw]
    rfl
  have counted : s.pending.getD i 0 = (outstanding ws s.scheduled w).length := by
    rw [h.pending_eq, here, ← List.countP_eq_length_filter, List.countP_filterMap, outstanding,
      ← List.countP_eq_length_filter]
    refine List.countP_congr fun name _ => ?_
    cases position? (ws.map (·.definition.name)) name <;> rfl
  rw [List.getElem?_eq_getElem inside, ← counted, List.getD_eq_getElem _ _ inside]

section Needs

variable {needs : List (List Nat)} {s : State} {i j : Nat} {ready : List Nat}

/-! ### Counting down -/

/-- The state in which a ready position is taken, before the positions that wait for it are counted
down. -/
def State.take (s : State) (i : Nat) (ready : List Nat) : State :=
  { s with ready, scheduled := s.scheduled ++ [i] }

/-- A position is counted down once for every time that it is counted up. The counts on either side
come from the same list of needs. -/
theorem count_dependents (proper : IsProper needs) (i d : Nat) :
    (dependents needs d).count i = (needs.getD i []).count d := by
  rw [(nodup_dependents d).count, (proper.nodup i).count]
  simp only [mem_dependents]

/-- What waits for the first ready position has something pending, and so is not ready. It is
therefore not counted down from zero. -/
theorem State.Valid.pending_pos (h : s.Valid needs) (hready : s.ready = i :: ready)
    (waits : j ∈ dependents needs i) : 0 < s.pending.getD j 0 := by
  obtain ⟨-, -, fresh⟩ := (h.mem_ready i).1 (hready ▸ List.mem_cons_self)
  rw [Nat.pos_iff_ne_zero, Ne, h.pending_eq_zero_iff]
  exact fun done => fresh (done i (mem_dependents.1 waits))

/-- The counters that a step counts down are above zero when it does. The split makes it a statement
about each single release. -/
theorem State.Valid.exists_pending_succ (h : s.Valid needs) (hready : s.ready = i :: ready)
    {before after : List Nat} (split : dependents needs i = before ++ j :: after) :
    ∃ left, (before.foldl release (s.take i ready)).pending[j]? = some (left + 1) := by
  have waits : j ∈ dependents needs i := by simp [split]
  have nodup : (before ++ j :: after).Nodup := split ▸ nodup_dependents i
  obtain ⟨nodup, -, apart⟩ := List.nodup_append.1 nodup
  have untouched : j ∉ before := fun earlier => apart j earlier j List.mem_cons_self rfl
  obtain ⟨-, length, pending, -⟩ := foldl_release nodup (s.take i ready)
  have inside : j < (before.foldl release (s.take i ready)).pending.length := by
    rw [length]
    exact h.length_pending ▸ lt_of_mem_needs (mem_dependents.1 waits)
  have positive : 0 < (before.foldl release (s.take i ready)).pending.getD j 0 := by
    rw [pending j, if_neg untouched]
    exact h.pending_pos hready waits
  rw [List.getD_eq_getElem _ _ inside] at positive
  exact ⟨_, by rw [List.getElem?_eq_getElem inside, Nat.sub_add_cancel positive]⟩

/-! ### Becoming ready -/

/-- The positions that become ready while several positions are counted down, in order. The state
changes on the way, so that the order is that of the releases. -/
def opened (s : State) : List Nat → List Nat
  | [] => []
  | i :: is => (if s.pending.getD i 0 - 1 = 0 then [i] else []) ++ opened (release s i) is

/-- The positions that become ready in a step, in order. Nothing opens where nothing is ready. -/
def openedBy (needs : List (List Nat)) (s : State) : List Nat :=
  match s.ready with
  | [] => []
  | i :: ready => opened (s.take i ready) (dependents needs i)

/-- The positions that have become ready once `n` steps are done, in order: those that are ready at
the start, and those that become ready in the steps. -/
def entries (needs : List (List Nat)) : (n : Nat) → List Nat
  | 0 => (start needs).ready
  | n + 1 => entries needs n ++ openedBy needs (Nat.repeat (step needs) n (start needs))

theorem perm_ready_release (fresh : i ∉ s.ready) :
    (release s i).ready.Perm (s.ready ++ if s.pending.getD i 0 - 1 = 0 then [i] else []) := by
  simp only [release]
  split
  · exact (Ascending.perm_insert fresh).trans (List.perm_append_singleton i s.ready).symm
  · rw [List.append_nil]

theorem perm_opened {is : List Nat} (nodup : is.Nodup) (fresh : ∀ i ∈ is, i ∉ s.ready) :
    (is.foldl release s).ready.Perm (s.ready ++ opened s is) := by
  induction is generalizing s with
  | nil => rw [opened, List.append_nil, List.foldl_nil]
  | cons i is ih =>
    obtain ⟨apart, nodup⟩ := List.nodup_cons.1 nodup
    obtain ⟨here, others⟩ := List.forall_mem_cons.1 fresh
    have later : ∀ j ∈ is, j ∉ (release s i).ready := by
      intro j hj again
      obtain old | ⟨rfl, -⟩ := mem_ready_release.1 again
      · exact others j hj old
      · exact apart hj
    rw [List.foldl_cons, opened, ← List.append_assoc]
    exact (ih nodup later).trans ((perm_ready_release here).append_right _)

/-- A step moves its position from the ready ones to the scheduled ones, and adds what becomes
ready. -/
theorem State.Valid.perm_step (h : s.Valid needs) :
    ((step needs s).scheduled ++ (step needs s).ready).Perm
      (s.scheduled ++ s.ready ++ openedBy needs s) := by
  cases hready : s.ready with
  | nil => simp only [step, openedBy, hready, List.append_nil, List.Perm.refl]
  | cons i ready =>
    have fresh : ∀ j ∈ dependents needs i, j ∉ (s.take i ready).ready := by
      intro j waits again
      have member : j ∈ s.ready := hready ▸ List.mem_cons_of_mem i again
      exact absurd ((h.mem_ready j).1 member).2.1 (h.pending_pos hready waits).ne'
    have stepped : step needs s = (dependents needs i).foldl release (s.take i ready) :=
      step_of_ready hready
    have opens : openedBy needs s = opened (s.take i ready) (dependents needs i) := by
      simp only [openedBy, hready]
    have scheduled : (step needs s).scheduled = s.scheduled ++ [i] := by
      rw [stepped]
      exact (foldl_release (nodup_dependents i) (s.take i ready)).1
    have perm := perm_opened (nodup_dependents i) fresh
    rw [← stepped, ← opens] at perm
    rw [scheduled, List.append_assoc, List.append_assoc]
    exact perm.append_left _ |>.cons i |>.append_left s.scheduled

/-- What has become ready is scheduled or still ready. The induction is over the steps. -/
theorem perm_entries (proper : IsProper needs) (n : Nat) :
    (entries needs n).Perm ((Nat.repeat (step needs) n (start needs)).scheduled ++
      (Nat.repeat (step needs) n (start needs)).ready) := by
  induction n with
  | zero => rfl
  | succ n ih => exact (ih.append_right _).trans (valid_repeat proper n).perm_step.symm

/-- A position is scheduled or ready, and only once. What is scheduled was taken from the ready
positions. -/
theorem State.Valid.nodup_scheduled_ready (h : s.Valid needs) :
    (s.scheduled ++ s.ready).Nodup := by
  have ready : s.ready.Nodup := Ascending.nodup_of_ascend_by id h.ascends_ready
  refine h.nodup_scheduled.append ready fun i scheduled waiting => ?_
  exact ((h.mem_ready i).1 waiting).2.2 scheduled

end Needs

/-! ### All states -/

/-- After any number of steps, the counter of every position shows the number of definitions that
its wiring mentions and whose last wirings are not scheduled yet; the next step counts down every
position as often as it was counted up for the position that is taken, and from a counter above zero
each time; and no position has become ready twice. -/
theorem counters_balanced (ws : List Wiring) (n : Nat) :
    let s := Nat.repeat (step (needs ws)) n (start (needs ws))
    (∀ (i : Nat) (w : Wiring), ws[i]? = some w →
      ∃ names : List String, names.Nodup ∧
        (∀ name, name ∈ names ↔ w.Mentions name ∧ ∃ d, IsLast ws name d ∧ d ∉ s.scheduled) ∧
        s.pending[i]? = some names.length) ∧
    (∀ (i : Nat) (ready : List Nat), s.ready = i :: ready →
      step (needs ws) s = (dependents (needs ws) i).foldl release (s.take i ready) ∧
      (∀ j, (dependents (needs ws) i).count j = ((needs ws).getD j []).count i) ∧
      ∀ before j after, dependents (needs ws) i = before ++ j :: after →
        ∃ left, (before.foldl release (s.take i ready)).pending[j]? = some (left + 1)) ∧
    (entries (needs ws) n).Perm (s.scheduled ++ s.ready) ∧
    (entries (needs ws) n).Nodup := by
  intro s
  have proper := isProper_needs ws
  have valid : s.Valid (needs ws) := valid_repeat proper n
  have entered : (entries (needs ws) n).Perm (s.scheduled ++ s.ready) := perm_entries proper n
  refine ⟨fun i w hw => ?_, fun i ready hready => ⟨step_of_ready hready, ?_, ?_⟩, entered,
    entered.nodup_iff.2 valid.nodup_scheduled_ready⟩
  · exact ⟨outstanding ws s.scheduled w, nodup_outstanding ws s.scheduled w,
      fun name => mem_outstanding, valid.getElem?_pending hw⟩
  · exact fun j => count_dependents proper j i
  · exact fun before j after split => valid.exists_pending_succ hready split

/-- The client waits for the second of two services, and what mentions itself is never ready. -/
example :
    finalState (needs [Sample.constructedWith "client" ["service"],
      Sample.constructedWith "service" ["clock"], Sample.constructedWith "service" [],
      Sample.constructedWith "loop" ["loop"]]) = ⟨[0, 0, 0, 1], [], [1, 2, 0]⟩ := by
  decide

end StaticWiring.Schedule
