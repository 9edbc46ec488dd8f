import StaticWiring.Proofs.Lists
import StaticWiring.Proofs.Schedule.State

/-!
# The order of wirings

A schedule that succeeds permutes the wirings, and each of them follows all wirings of the list that
it mentions.

## Main definitions

* `Wiring.Mentions` — a wiring mentions the definition of a name.
* `Schedule.Respects` — every wiring of a list follows those that it mentions.

## Main results

* `Schedule.isProper_needs` — the needs of wirings are positions, each of them once.
* `Schedule.perm_of_order` — a schedule neither loses nor repeats a wiring.
* `Schedule.respects_of_order` — it puts wirings behind those that they mention.
-/

namespace StaticWiring

/-- The wiring mentions the definition with the name: as the factory bean or as a value of its
instantiation, or as a value of one of its injections. -/
def Wiring.Mentions (w : Wiring) (name : String) : Prop :=
  name ∈ w.instantiation.references ∨ ∃ injection ∈ w.injections, name ∈ injection.references

theorem Wiring.mem_references {w : Wiring} {name : String} :
    name ∈ w.references ↔ w.Mentions name := by
  simp [Wiring.references, Wiring.Mentions]

namespace Schedule

/-! ### Positions of names -/

theorem getElem?_of_position? {names : List String} {name : String} {i : Nat}
    (h : position? names name = some i) : names[i]? = some name := by
  obtain ⟨before, after, split, -⟩ := List.lookup_eq_some_iff.1 h
  have mem : (name, i) ∈ names.zipIdx.reverse := split ▸ by simp
  rwa [List.mem_reverse, List.mem_zipIdx_iff_getElem?] at mem

theorem exists_position? {names : List String} {name : String} (h : name ∈ names) :
    ∃ i, position? names name = some i := by
  rw [← Option.isSome_iff_exists, ← Option.ne_none_iff_isSome]
  intro none
  rw [position?, List.lookup_eq_none_iff] at none
  obtain ⟨i, hi⟩ := List.getElem?_of_mem h
  have differs := none (name, i)
    (List.mem_reverse.2 (List.mem_zipIdx_iff_getElem?.2 hi))
  simp at differs

theorem isProper_needs (ws : List Wiring) : IsProper (needs ws) := by
  intro ds hds
  obtain ⟨w, -, rfl⟩ := List.mem_map.1 hds
  constructor
  · refine List.Nodup.filterMap ?_ (Lists.nodup_eraseDups _)
    intro a b i ha hb
    exact Option.some.inj
      ((getElem?_of_position? (Option.mem_def.1 ha)).symm.trans
        (getElem?_of_position? (Option.mem_def.1 hb)))
  · intro d hd
    obtain ⟨name, -, hname⟩ := List.mem_filterMap.1 hd
    have found := getElem?_of_position? hname
    simpa [needs] using (List.getElem?_eq_some_iff.1 found).1

/-! ### Needs of wirings -/

variable {ws ordered : List Wiring}

theorem length_needs (ws : List Wiring) : (needs ws).length = ws.length := by
  simp [needs]

/-- At the position of a name, there is the wiring with this name. It is the last one with this
name. -/
theorem exists_of_position? {name : String} {i : Nat}
    (h : position? (ws.map (·.definition.name)) name = some i) :
    ∃ w, ws[i]? = some w ∧ w.definition.name = name := by
  simpa using getElem?_of_position? h

/-- The position of what a wiring mentions is one of its needs. What is not in the list is no need.
-/
theorem mem_needs {i d : Nat} {w : Wiring} {name : String} (hw : ws[i]? = some w)
    (mentions : w.Mentions name) (hd : position? (ws.map (·.definition.name)) name = some d) :
    d ∈ (needs ws).getD i [] := by
  rw [List.getD_eq_getElem?_getD, needs, List.getElem?_map, hw]
  exact List.mem_filterMap.2 ⟨name, Wiring.mem_references.2 mentions, hd⟩

/-- A need of a position is the position of what the wiring there mentions. Nothing else is waited
for. -/
theorem exists_mentions_of_mem_needs {i d : Nat} (h : d ∈ (needs ws).getD i []) :
    ∃ w v, ws[i]? = some w ∧ ws[d]? = some v ∧ w.Mentions v.definition.name := by
  rw [List.getD_eq_getElem?_getD, needs, List.getElem?_map] at h
  cases hw : ws[i]? with
  | none =>
    rw [hw] at h
    exact absurd h List.not_mem_nil
  | some w =>
    rw [hw] at h
    obtain ⟨name, hname, hd⟩ := List.mem_filterMap.1 h
    obtain ⟨v, hv, rfl⟩ := exists_of_position? hd
    exact ⟨w, v, rfl, hv, Wiring.mem_references.1 hname⟩

/-- Wirings of different names are told apart by their names. They may be spoken of by their names
or by their positions. -/
theorem eq_of_getElem?_name (distinct : (ws.map (·.definition.name)).Nodup) {i j : Nat}
    {v w : Wiring} (hi : ws[i]? = some v) (hj : ws[j]? = some w)
    (same : v.definition.name = w.definition.name) : i = j := by
  have hlt : i < (ws.map (·.definition.name)).length := by
    simpa using (List.getElem?_eq_some_iff.1 hi).1
  refine (List.getElem?_inj hlt distinct).1 ?_
  rw [List.getElem?_map, List.getElem?_map, hi, hj, Option.map_some, Option.map_some, same]

/-! ### Orders -/

/-- Every wiring of a list follows those wirings of the list that it mentions. Mentions of other
definitions are no constraint. -/
def Respects (ws : List Wiring) : Prop :=
  ∀ (i : Nat) (w : Wiring), ws[i]? = some w →
    ∀ name, w.Mentions name → name ∈ ws.map (·.definition.name) →
      ∃ j < i, ∃ v : Wiring, ws[j]? = some v ∧ v.definition.name = name

/-- What a schedule that succeeds has scheduled. It is what later results have to know of the
success. -/
theorem order_eq_ok (h : order ws = .ok ordered) :
    (finalState (needs ws)).scheduled.length = ws.length ∧
      ordered = (finalState (needs ws)).scheduled.filterMap (ws[·]?) := by
  simp only [order] at h
  split at h
  · next complete => exact ⟨complete, (Except.ok.inj h).symm⟩
  · cases h

theorem lt_of_mem_scheduled {i : Nat} (h : i ∈ (finalState (needs ws)).scheduled) :
    i < ws.length := by
  simpa [needs] using (valid_finalState (isProper_needs ws)).lt_of_scheduled i h

theorem perm_of_order (h : order ws = .ok ordered) : ordered.Perm ws := by
  obtain ⟨length, rfl⟩ := order_eq_ok h
  have valid := valid_finalState (isProper_needs ws)
  have perm := Lists.perm_range_of_length valid.nodup_scheduled
    (fun i hi => lt_of_mem_scheduled hi) length
  exact (perm.filterMap _).trans (.of_eq (Lists.filterMap_getElem?_range ws))

theorem respects_of_order (h : order ws = .ok ordered) : Respects ordered := by
  intro k w hk name mentions listed
  have perm := perm_of_order h
  obtain ⟨length, rfl⟩ := order_eq_ok h
  have valid := valid_finalState (isProper_needs ws)
  have lt : ∀ i ∈ (finalState (needs ws)).scheduled, i < ws.length :=
    fun i hi => lt_of_mem_scheduled hi
  rw [Lists.getElem?_filterMap_getElem? lt, Option.bind_eq_some_iff] at hk
  obtain ⟨i, hi, hw⟩ := hk
  obtain ⟨d, hd⟩ := exists_position? ((perm.map _).mem_iff.1 listed)
  obtain ⟨j, hj⟩ := List.getElem?_of_mem (valid.needs_before k i hi d (mem_needs hw mentions hd))
  obtain ⟨v, hv, rfl⟩ := exists_of_position? hd
  obtain ⟨hjk, hj⟩ : j < k ∧ (finalState (needs ws)).scheduled[j]? = some d := by
    rw [List.getElem?_take] at hj
    split at hj
    · next hjk => exact ⟨hjk, hj⟩
    · cases hj
  refine ⟨j, hjk, v, ?_, rfl⟩
  rw [Lists.getElem?_filterMap_getElem? lt, hj]
  exact hv

/-- A wiring that mentions nothing is in order by itself. It is the schedule of samples with one
definition. -/
theorem order_singleton {w : Wiring} (h : w.references = []) : order [w] = .ok [w] := by
  have noNeeds : needs [w] = [[]] := by
    simp [needs, h]
  have final : finalState [[]] = ⟨[0], [], [0]⟩ := by decide
  simp [order, noNeeds, final]

end Schedule

/-- The wiring of a definition whose constructor takes the definitions with the given names. Every
such definition mentions just these. -/
def Sample.constructedWith (name : String) (needed : List String) : Wiring where
  definition := { name, type := .raw "app.Service" }
  typeAccessible := true
  instantiation := .construction (needed.map fun _ => .raw "app.Service")
    (needed.map fun other => .bean other (.raw "app.Service")) false
  injections := []

end StaticWiring
