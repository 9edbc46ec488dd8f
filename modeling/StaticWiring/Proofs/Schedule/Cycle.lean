import Mathlib.Order.Preorder.Finite
import Mathlib.Logic.Relation
import StaticWiring.Proofs.Schedule.Final
import StaticWiring.Proofs.Schedule.Order

/-!
# Cycles of mentions

Wirings that mention each other in a cycle cannot be put into an order, and neither can those that
mention a wiring of a cycle, directly or through others. A schedule leaves exactly these over: what
is scheduled stands behind all that it mentions, and what is left over waits for something that is
left over too, so that one comes back to the same wiring in the end.

## Main definitions

* `Schedule.RefersTo` — a wiring mentions another one of the list.
* `Schedule.OnCycle`, `Schedule.LeadsToCycle` — the wirings of cycles, and those that lead there.

## Main results

* `Schedule.mem_scheduled_iff` — what is scheduled does not lead to a cycle.
* `Schedule.order_eq_error_iff` — when a schedule fails, and what it reports.
-/

open Relation

namespace StaticWiring

namespace Schedule

/-! ### Cycles of finite relations -/

theorem reflTransGen_iterate {α : Type} {r : α → α → Prop} {next : α → α}
    (h : ∀ a, r a (next a)) (n : Nat) (a : α) : ReflTransGen r a (next^[n] a) := by
  induction n with
  | zero => exact .refl
  | succ n ih =>
    rw [Function.iterate_succ_apply']
    exact ih.tail (h _)

/-- In a finite set, one comes to a cycle if there is always a next item. The items on the way
cannot all be different. -/
theorem exists_cycle_of_finite {α : Type} [Finite α] {r : α → α → Prop}
    (h : ∀ a, ∃ b, r a b) (a : α) : ∃ b, ReflTransGen r a b ∧ TransGen r b b := by
  choose next hnext using h
  -- Among the items that follow each other, one comes twice.
  obtain ⟨m, n, hlt, same⟩ := Set.finite_univ.exists_lt_map_eq_of_forall_mem
    (f := fun n => next^[n] a) fun _ => Set.mem_univ _
  obtain ⟨k, rfl⟩ := Nat.exists_eq_add_of_lt hlt
  refine ⟨next^[m] a, reflTransGen_iterate hnext m a, ?_⟩
  have back : next^[k] (next (next^[m] a)) = next^[m] a := by
    rw [← Function.iterate_succ_apply, ← Function.iterate_add_apply]
    exact (congrArg (next^[·] a) (by omega)).trans same.symm
  have around := reflTransGen_iterate hnext k (next (next^[m] a))
  rw [back] at around
  exact TransGen.head' (hnext _) around

/-! ### References between wirings -/

variable {ws : List Wiring}

/-- The wiring of the first name mentions the second one, which is the name of a wiring of the list
too. -/
def RefersTo (ws : List Wiring) (name other : String) : Prop :=
  (∃ w ∈ ws, w.definition.name = name ∧ w.Mentions other) ∧
    other ∈ ws.map (·.definition.name)

/-- Following mentions, one comes back to the name. A name that mentions itself is on a cycle. -/
def OnCycle (ws : List Wiring) (name : String) : Prop :=
  TransGen (RefersTo ws) name name

/-- Following mentions, one comes from the name to a cycle. The name need not be on the cycle. -/
def LeadsToCycle (ws : List Wiring) (name : String) : Prop :=
  ∃ other, ReflTransGen (RefersTo ws) name other ∧ OnCycle ws other

/-- A wiring refers to the wirings at its needs. Positions may thus be left for names. -/
theorem refersTo_of_mem_needs {i d : Nat} {w v : Wiring} (hw : ws[i]? = some w)
    (hv : ws[d]? = some v) (h : d ∈ (needs ws).getD i []) :
    RefersTo ws w.definition.name v.definition.name := by
  obtain ⟨w', v', hw', hv', mentions⟩ := exists_mentions_of_mem_needs h
  obtain rfl : w = w' := Option.some.inj (hw.symm.trans hw')
  obtain rfl : v = v' := Option.some.inj (hv.symm.trans hv')
  exact ⟨⟨w, List.mem_of_getElem? hw, rfl, mentions⟩,
    List.mem_map_of_mem (List.mem_of_getElem? hv)⟩

/-- A wiring refers to nothing but the wirings at its needs. Names have to be different for this, as
a name stands for one position. -/
theorem RefersTo.exists_mem_needs (distinct : (ws.map (·.definition.name)).Nodup) {i : Nat}
    {w : Wiring} {other : String} (hw : ws[i]? = some w)
    (h : RefersTo ws w.definition.name other) :
    ∃ d ∈ (needs ws).getD i [], ∃ v, ws[d]? = some v ∧ v.definition.name = other := by
  obtain ⟨⟨w', mem, same, mentions⟩, listed⟩ := h
  obtain ⟨j, hj⟩ := List.getElem?_of_mem mem
  obtain rfl := eq_of_getElem?_name distinct hj hw same
  obtain ⟨d, hd⟩ := exists_position? listed
  exact ⟨d, mem_needs hj mentions hd, exists_of_position? hd⟩

/-! ### What is scheduled -/

/-- Whatever one comes to from a scheduled wiring is scheduled before it. The induction is along the
way. -/
theorem exists_scheduled_before (distinct : (ws.map (·.definition.name)).Nodup) {k i : Nat}
    {w : Wiring} {other : String} (hi : (finalState (needs ws)).scheduled[k]? = some i)
    (hw : ws[i]? = some w) (h : TransGen (RefersTo ws) w.definition.name other) :
    ∃ j < k, ∃ d v, (finalState (needs ws)).scheduled[j]? = some d ∧ ws[d]? = some v ∧
      v.definition.name = other := by
  have valid := valid_finalState (isProper_needs ws)
  -- One mention goes to a need, which is scheduled before.
  have one {k i : Nat} {w : Wiring} {other : String}
      (hi : (finalState (needs ws)).scheduled[k]? = some i) (hw : ws[i]? = some w)
      (h : RefersTo ws w.definition.name other) :
      ∃ j < k, ∃ d v, (finalState (needs ws)).scheduled[j]? = some d ∧ ws[d]? = some v ∧
        v.definition.name = other := by
    obtain ⟨d, hd, v, hv, name⟩ := h.exists_mem_needs distinct hw
    obtain ⟨j, hj, found⟩ := List.mem_take_iff_getElem.1 (valid.needs_before k i hi d hd)
    exact ⟨j, by omega, d, v, by rw [← found]; exact List.getElem?_eq_getElem _, hv, name⟩
  induction h with
  | single h => exact one hi hw h
  | tail _ h ih =>
    obtain ⟨j, hjk, d, v, hd, hv, rfl⟩ := ih
    obtain ⟨j', hj', found⟩ := one hd hv h
    exact ⟨j', hj'.trans hjk, found⟩

/-- A scheduled wiring is on no cycle, as it does not stand before itself. It would have to. -/
theorem not_onCycle_of_scheduled (distinct : (ws.map (·.definition.name)).Nodup) {i : Nat}
    {w : Wiring} (hi : i ∈ (finalState (needs ws)).scheduled) (hw : ws[i]? = some w) :
    ¬ OnCycle ws w.definition.name := by
  intro cycle
  obtain ⟨k, hk⟩ := List.getElem?_of_mem hi
  obtain ⟨j, hjk, d, v, hd, hv, name⟩ := exists_scheduled_before distinct hk hw cycle
  obtain rfl := eq_of_getElem?_name distinct hv hw name
  have hlt := (List.getElem?_eq_some_iff.1 hk).1
  have nodup := (valid_finalState (isProper_needs ws)).nodup_scheduled
  have same := (List.getElem?_inj (hjk.trans hlt) nodup).1 (hd.trans hk.symm)
  exact absurd same (Nat.ne_of_lt hjk)

theorem not_leadsToCycle_of_scheduled (distinct : (ws.map (·.definition.name)).Nodup) {i : Nat}
    {w : Wiring} (hi : i ∈ (finalState (needs ws)).scheduled) (hw : ws[i]? = some w) :
    ¬ LeadsToCycle ws w.definition.name := by
  rintro ⟨other, reach, cycle⟩
  rcases reflTransGen_iff_eq_or_transGen.1 reach with rfl | reach
  · exact not_onCycle_of_scheduled distinct hi hw cycle
  · obtain ⟨k, hk⟩ := List.getElem?_of_mem hi
    obtain ⟨j, -, d, v, hd, hv, rfl⟩ := exists_scheduled_before distinct hk hw reach
    exact not_onCycle_of_scheduled distinct (List.mem_of_getElem? hd) hv cycle

/-! ### What is left over -/

/-- A wiring that is left over leads to a cycle. Each such wiring needs another one that is left
over, and there are only finitely many. -/
theorem leadsToCycle_of_unscheduled {i : Nat} {w : Wiring} (hw : ws[i]? = some w)
    (left : i ∉ (finalState (needs ws)).scheduled) : LeadsToCycle ws w.definition.name := by
  let Left := {i : Fin ws.length // i.val ∉ (finalState (needs ws)).scheduled}
  let name (i : Left) : String := (ws.get i.val).definition.name
  have next (i : Left) : ∃ d : Left, d.val.val ∈ (needs ws).getD i.val [] := by
    have hi : i.val.val < (needs ws).length := by
      rw [length_needs]
      exact i.val.isLt
    obtain ⟨d, hd, left⟩ := exists_unscheduled_need (isProper_needs ws) hi i.property
    obtain ⟨-, v, -, hv, -⟩ := exists_mentions_of_mem_needs hd
    exact ⟨⟨⟨d, (List.getElem?_eq_some_iff.1 hv).1⟩, left⟩, hd⟩
  have refers (i d : Left) (h : d.val.val ∈ (needs ws).getD i.val []) :
      RefersTo ws (name i) (name d) :=
    refersTo_of_mem_needs (List.getElem?_eq_getElem i.val.isLt)
      (List.getElem?_eq_getElem d.val.isLt) h
  obtain ⟨hi, rfl⟩ := List.getElem?_eq_some_iff.1 hw
  obtain ⟨d, reach, cycle⟩ := exists_cycle_of_finite next ⟨⟨i, hi⟩, left⟩
  exact ⟨name d, reach.lift name refers, cycle.lift name refers⟩

/-- The scheduled wirings are those that do not lead to a cycle. The schedule thus leaves nothing
else over. -/
theorem mem_scheduled_iff (distinct : (ws.map (·.definition.name)).Nodup) {i : Nat} {w : Wiring}
    (hw : ws[i]? = some w) :
    i ∈ (finalState (needs ws)).scheduled ↔ ¬ LeadsToCycle ws w.definition.name := by
  constructor
  · exact fun hi => not_leadsToCycle_of_scheduled distinct hi hw
  · exact fun h => not_not.1 fun left => h (leadsToCycle_of_unscheduled hw left)

/-- Everything is scheduled exactly if there is no cycle. The schedule fails in no other case. -/
theorem length_scheduled_iff (distinct : (ws.map (·.definition.name)).Nodup) :
    (finalState (needs ws)).scheduled.length = ws.length ↔ ∀ name, ¬ OnCycle ws name := by
  have nodup := (valid_finalState (isProper_needs ws)).nodup_scheduled
  constructor
  · intro all name cycle
    have perm := Lists.perm_range_of_length nodup (fun i hi => lt_of_mem_scheduled hi) all
    obtain ⟨other, ⟨⟨w, hw, rfl, -⟩, -⟩, -⟩ := TransGen.head'_iff.1 cycle
    obtain ⟨i, hi⟩ := List.getElem?_of_mem hw
    have scheduled : i ∈ (finalState (needs ws)).scheduled :=
      perm.mem_iff.2 (List.mem_range.2 (List.getElem?_eq_some_iff.1 hi).1)
    exact not_onCycle_of_scheduled distinct scheduled hi cycle
  · intro acyclic
    have all (i : Nat) : i ∈ (finalState (needs ws)).scheduled ↔ i ∈ List.range ws.length := by
      refine ⟨fun hi => List.mem_range.2 (lt_of_mem_scheduled hi), fun hi => ?_⟩
      refine (mem_scheduled_iff distinct
        (List.getElem?_eq_getElem (List.mem_range.1 hi))).2 ?_
      rintro ⟨other, -, cycle⟩
      exact acyclic other cycle
    have perm := (List.perm_ext_iff_of_nodup nodup List.nodup_range).2 all
    rw [perm.length_eq, List.length_range]

/-- The wirings with pending needs are those that lead to a cycle. They are reported in the order of
the list. -/
theorem map_name_blocked (distinct : (ws.map (·.definition.name)).Nodup)
    [DecidablePred (LeadsToCycle ws)] :
    (blocked ws (finalState (needs ws))).map (·.definition.name) =
      (ws.map (·.definition.name)).filter fun name => LeadsToCycle ws name := by
  have proper := isProper_needs ws
  have length : (finalState (needs ws)).pending.length = ws.length :=
    (valid_finalState proper).length_pending.trans (length_needs ws)
  have pending : ∀ entry ∈ ws.zip (finalState (needs ws)).pending,
      decide (entry.2 > 0) = decide (LeadsToCycle ws entry.1.definition.name) := by
    rintro ⟨w, n⟩ hentry
    obtain ⟨i, hi⟩ := List.getElem?_of_mem hentry
    obtain ⟨hw, hn⟩ := List.getElem?_zip_eq_some.1 hi
    have lt : i < (needs ws).length := by
      rw [length_needs]
      exact (List.getElem?_eq_some_iff.1 hw).1
    have zero := pending_finalState_eq_zero_iff proper lt
    rw [List.getD_eq_getElem?_getD, hn, Option.getD_some, mem_scheduled_iff distinct hw] at zero
    rw [decide_eq_decide, gt_iff_lt, Nat.pos_iff_ne_zero, ne_eq, zero, not_not]
  have names : ws.map (·.definition.name) =
      (ws.zip (finalState (needs ws)).pending).map fun entry => entry.1.definition.name := by
    conv => lhs; rw [← List.map_fst_zip (Nat.le_of_eq length.symm), List.map_map]
    rfl
  rw [blocked, List.filter_congr pending, List.map_map, names, List.filter_map]
  rfl

end Schedule

/-! ### A service and its repository that need each other -/

namespace Sample

/-- A service and a repository that need each other, a clock that stands between them, and a client
of the service. -/
def circular : List Wiring :=
  [constructedWith "service" ["repository"], constructedWith "clock" [],
    constructedWith "repository" ["service"], constructedWith "client" ["service", "clock"]]

theorem order_circular :
    Schedule.order circular =
      .error (.dependencyCycle ["service", "repository", "client"]) := by
  have needs : Schedule.needs circular = [[2], [], [0], [0, 1]] := by decide
  have final : Schedule.finalState [[2], [], [0], [0, 1]] = ⟨[1, 0, 1, 1], [], [1]⟩ := by decide
  rw [Schedule.order, needs, final]
  rfl

end Sample

namespace Schedule

/-! ### Failures -/

/-- A schedule of wirings with different names fails exactly if some of them mention each other in a
cycle. It reports the names, in the order of the list, of those that lead to a cycle. -/
theorem order_eq_error_iff (distinct : (ws.map (·.definition.name)).Nodup)
    [DecidablePred (LeadsToCycle ws)] (e : GenerationError) :
    order ws = .error e ↔ (∃ name, OnCycle ws name) ∧
      e = .dependencyCycle
        ((ws.map (·.definition.name)).filter fun name => LeadsToCycle ws name) := by
  have complete := length_scheduled_iff distinct
  simp only [order]
  split
  · next all =>
    have acyclic := complete.1 all
    constructor
    · intro h
      cases h
    · rintro ⟨⟨name, cycle⟩, -⟩
      exact absurd cycle (acyclic name)
  · next left =>
    have cyclic : ∃ name, OnCycle ws name := by
      by_contra none
      exact left (complete.2 fun name cycle => none ⟨name, cycle⟩)
    rw [map_name_blocked distinct, Except.error.injEq, eq_comm, and_iff_right cyclic]

/-- The client is reported, although it is on no cycle itself, and the clock is not. The report is
thus longer than the cycle. -/
theorem order_eq_error_circular :
    (Sample.circular.map (·.definition.name)).Nodup ∧
    order Sample.circular =
      .error (.dependencyCycle ["service", "repository", "client"]) ∧
    (∃ name, OnCycle Sample.circular name) ∧
    LeadsToCycle Sample.circular "client" ∧ ¬ LeadsToCycle Sample.circular "clock" := by
  classical
  have distinct : (Sample.circular.map (·.definition.name)).Nodup := by decide
  obtain ⟨cycle, reported⟩ := (order_eq_error_iff distinct _).1 Sample.order_circular
  have leads (name : String) : name ∈ ["service", "repository", "client"] ↔
      name ∈ Sample.circular.map (·.definition.name) ∧ LeadsToCycle Sample.circular name := by
    rw [GenerationError.dependencyCycle.inj reported, List.mem_filter, decide_eq_true_iff]
  refine ⟨distinct, Sample.order_circular, cycle, ((leads "client").1 (by decide)).2, ?_⟩
  intro clock
  exact absurd ((leads "clock").2 ⟨by decide, clock⟩) (by decide)

end Schedule

end StaticWiring
