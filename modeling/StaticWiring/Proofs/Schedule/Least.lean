import Mathlib.Order.Bounds.Basic
import StaticWiring.Proofs.Schedule.Final
import StaticWiring.Proofs.Schedule.Order

/-!
# The least order of wirings

Wirings that can be put behind everything that they mention can be arranged in many ways. A schedule
finds the arrangement whose sequence of positions is the least one, compared position by position:
it never takes a wiring if an earlier one could come instead. So wirings which are in order already
stay as they are, and a second schedule changes nothing.

## Main definitions

* `Schedule.Arranges` — a list of positions arranges wirings.

## Main results

* `Schedule.scheduled_le` — no arrangement is less than the schedule.
* `Schedule.order_eq_ok_iff_isLeast` — a schedule succeeds exactly with the least arrangement.
* `Schedule.order_least` — the order that a schedule finds.
-/

namespace StaticWiring

namespace Schedule

variable {ws ordered : List Wiring}

/-! ### Arrangements -/

/-- The wirings at the positions are all wirings of the list, each of them once, and each of them
behind all those that it mentions. -/
structure Arranges (ws : List Wiring) (is : List Nat) : Prop where
  /-- Every position occurs once. -/
  perm : is.Perm (List.range ws.length)
  /-- Every wiring follows those that it mentions. -/
  respects : Respects (is.filterMap (ws[·]?))

theorem Arranges.lt {is : List Nat} (h : Arranges ws is) : ∀ i ∈ is, i < ws.length :=
  fun _ hi => List.mem_range.1 (h.perm.mem_iff.1 hi)

theorem Arranges.nodup {is : List Nat} (h : Arranges ws is) : is.Nodup :=
  h.perm.nodup_iff.2 List.nodup_range

/-- In an arrangement, every position stands behind its needs. Mentions are turned into positions
here, for the comparison with the schedule. -/
theorem Arranges.needs_before (distinct : (ws.map (·.definition.name)).Nodup) {is : List Nat}
    (h : Arranges ws is) {k i : Nat} (hi : is[k]? = some i) :
    ∀ d ∈ (needs ws).getD i [], d ∈ is.take k := by
  intro d hd
  obtain ⟨w, v, hw, hv, mentions⟩ := exists_mentions_of_mem_needs hd
  have here : (is.filterMap (ws[·]?))[k]? = some w := by
    rw [Lists.getElem?_filterMap_getElem? h.lt, hi, Option.bind_some, hw]
  have listed : v.definition.name ∈ (is.filterMap (ws[·]?)).map (·.definition.name) := by
    refine List.mem_map_of_mem (List.mem_filterMap.2 ⟨d, ?_, hv⟩)
    exact h.perm.mem_iff.2 (List.mem_range.2 (List.getElem?_eq_some_iff.1 hv).1)
  obtain ⟨j, hjk, u, hu, name⟩ := h.respects k w here _ mentions listed
  rw [Lists.getElem?_filterMap_getElem? h.lt, Option.bind_eq_some_iff] at hu
  obtain ⟨e, he, hu⟩ := hu
  obtain rfl := eq_of_getElem?_name distinct hu hv name
  rw [← List.getElem?_take_of_lt hjk] at he
  exact List.mem_of_getElem? he

/-! ### The least arrangement -/

/-- A schedule is not greater than any order of the same positions in which everything stands behind
its needs: at the first difference, the schedule has taken the least position that could come. -/
theorem scheduled_le {needs : List (List Nat)} {s : State} (greedy : s.IsGreedy needs)
    {is : List Nat} (nodup : is.Nodup) (lt : ∀ i ∈ is, i < needs.length)
    (length : is.length = s.scheduled.length)
    (before : ∀ k i, is[k]? = some i → ∀ d ∈ needs.getD i [], d ∈ is.take k) :
    s.scheduled ≤ is := by
  by_contra greater
  rcases List.lt_iff_exists.1 (not_le.1 greater) with ⟨-, shorter⟩ | ⟨k, hk, hk', agree, less⟩
  · omega
  · have same : is.take k = s.scheduled.take k := Lists.take_eq_of_agree hk hk' agree
    have fresh : is[k] ∉ is.take k := by
      intro mem
      obtain ⟨j, hj, found⟩ := List.mem_take_iff_getElem.1 mem
      have := nodup.getElem_inj_iff.1 found
      omega
    have available := before k is[k] (List.getElem?_eq_getElem hk)
    rw [same] at fresh available
    have least := greedy k s.scheduled[k] (List.getElem?_eq_getElem hk') is[k]
      (lt _ (List.getElem_mem hk)) fresh available
    omega

/-- Everything that stands in such an order is scheduled, one after the other. The induction is
along that order. -/
theorem mem_scheduled_of_before {needs : List (List Nat)} (proper : IsProper needs)
    {is : List Nat} (lt : ∀ i ∈ is, i < needs.length)
    (before : ∀ k i, is[k]? = some i → ∀ d ∈ needs.getD i [], d ∈ is.take k) (k i : Nat)
    (hi : is[k]? = some i) : i ∈ (finalState needs).scheduled := by
  induction k using Nat.strong_induction_on generalizing i with
  | _ k ih =>
    by_contra left
    obtain ⟨d, hd, unscheduled⟩ :=
      exists_unscheduled_need proper (lt i (List.mem_of_getElem? hi)) left
    obtain ⟨j, hj, found⟩ := List.mem_take_iff_getElem.1 (before k i hi d hd)
    exact unscheduled (ih j (by omega) d (by rw [← found]; exact List.getElem?_eq_getElem _))

/-- Wirings that can be arranged are all scheduled. A cycle would leave no order at all. -/
theorem Arranges.length_scheduled (distinct : (ws.map (·.definition.name)).Nodup) {is : List Nat}
    (h : Arranges ws is) : (finalState (needs ws)).scheduled.length = ws.length := by
  have proper := isProper_needs ws
  have lt : ∀ i ∈ is, i < (needs ws).length := fun i hi => length_needs ws ▸ h.lt i hi
  have all : is ⊆ (finalState (needs ws)).scheduled := by
    intro i hi
    obtain ⟨k, hk⟩ := List.getElem?_of_mem hi
    exact mem_scheduled_of_before proper lt (fun _ _ hk => h.needs_before distinct hk) k i hk
  have most : (finalState (needs ws)).scheduled ⊆ is := fun i hi =>
    h.perm.mem_iff.2 (List.mem_range.2 (lt_of_mem_scheduled hi))
  have perm := (List.perm_ext_iff_of_nodup (valid_finalState proper).nodup_scheduled h.nodup).2
    fun i => ⟨fun hi => most hi, fun hi => all hi⟩
  rw [perm.length_eq, h.perm.length_eq, List.length_range]

/-- What a schedule that succeeds has scheduled is the least arrangement. It is one of them, and no
other one is less. -/
theorem isLeast_scheduled (distinct : (ws.map (·.definition.name)).Nodup)
    (h : order ws = .ok ordered) :
    IsLeast {is | Arranges ws is} (finalState (needs ws)).scheduled := by
  have respects := respects_of_order h
  obtain ⟨length, rfl⟩ := order_eq_ok h
  have proper := isProper_needs ws
  constructor
  · refine ⟨Lists.perm_range_of_length (valid_finalState proper).nodup_scheduled
      (fun i hi => lt_of_mem_scheduled hi) length, respects⟩
  · intro is his
    refine scheduled_le (isGreedy_finalState proper) his.nodup
      (fun i hi => length_needs ws ▸ his.lt i hi) ?_ fun k i hi => his.needs_before distinct hi
    rw [length, his.perm.length_eq, List.length_range]

/-- Wirings can be scheduled exactly if they can be arranged, and the order is then that of the
least arrangement. -/
theorem order_eq_ok_iff_isLeast (distinct : (ws.map (·.definition.name)).Nodup) :
    order ws = .ok ordered ↔
      ∃ is, IsLeast {is | Arranges ws is} is ∧ ordered = is.filterMap (ws[·]?) := by
  constructor
  · intro h
    exact ⟨_, isLeast_scheduled distinct h, (order_eq_ok h).2⟩
  · rintro ⟨is, least, rfl⟩
    have complete := least.1.length_scheduled distinct
    have h : order ws = .ok ((finalState (needs ws)).scheduled.filterMap (ws[·]?)) := by
      simp [order, complete]
    rw [h, (isLeast_scheduled distinct h).unique least]

/-- Wirings that are in order already stay as they are. The ascending order of the positions is then
an arrangement, and none is less. -/
theorem order_of_respects (distinct : (ws.map (·.definition.name)).Nodup) (h : Respects ws) :
    order ws = .ok ws := by
  have given : Arranges ws (List.range ws.length) :=
    ⟨List.Perm.refl _, by rwa [Lists.filterMap_getElem?_range]⟩
  refine (order_eq_ok_iff_isLeast distinct).2 ⟨List.range ws.length, ⟨given, ?_⟩, ?_⟩
  · exact fun is his => Lists.range_le_of_perm his.perm
  · rw [Lists.filterMap_getElem?_range]

end Schedule

/-! ### A service before its repository -/

namespace Sample

/-- A service that is given before its repository, and a client of a definition that is not in the
list. -/
def services : List Wiring :=
  [constructedWith "service" ["repository"], constructedWith "clock" [],
    constructedWith "repository" [], constructedWith "client" ["remote"]]

/-- The clock comes before the repository, since it is given before it. The service comes after
both. -/
theorem order_services :
    Schedule.order services = .ok ([1, 2, 0, 3].filterMap (services[·]?)) := by
  have needs : Schedule.needs services = [[2], [], [], []] := by decide
  have final : (Schedule.finalState [[2], [], [], []]).scheduled = [1, 2, 0, 3] := by decide
  rw [Schedule.order, needs, final]
  rfl

end Sample

namespace Schedule

/-! ### The order that a schedule finds -/

/-- A schedule of wirings with different names permutes them such that each one follows all those of
the list that it mentions, and the sequence of their positions is the least one for which this
holds. Hence wirings that are in order already stay as they are, and to schedule them twice is to
schedule them once. -/
theorem order_least (distinct : (ws.map (·.definition.name)).Nodup) :
    (∀ ordered, order ws = .ok ordered →
      ordered.Perm ws ∧ Respects ordered ∧
      (∃ is, IsLeast {is | Arranges ws is} is ∧ ordered = is.filterMap (ws[·]?)) ∧
      order ordered = .ok ordered) ∧
    (Respects ws → order ws = .ok ws) := by
  refine ⟨fun ordered h => ?_, order_of_respects distinct⟩
  have perm := perm_of_order h
  have respects := respects_of_order h
  have distinct' : (ordered.map (·.definition.name)).Nodup := (perm.map _).nodup_iff.2 distinct
  exact ⟨perm, respects, (order_eq_ok_iff_isLeast distinct).1 h,
    order_of_respects distinct' respects⟩

theorem order_least_services :
    (Sample.services.map (·.definition.name)).Nodup ∧
    ∃ ordered, order Sample.services = .ok ordered ∧
      ordered.map (·.definition.name) = ["clock", "repository", "service", "client"] ∧
      ordered.Perm Sample.services ∧ Respects ordered ∧ order ordered = .ok ordered := by
  have distinct : (Sample.services.map (·.definition.name)).Nodup := by decide
  obtain ⟨perm, respects, -, again⟩ := (order_least distinct).1 _ Sample.order_services
  exact ⟨distinct, _, Sample.order_services, rfl, perm, respects, again⟩

end Schedule

end StaticWiring
