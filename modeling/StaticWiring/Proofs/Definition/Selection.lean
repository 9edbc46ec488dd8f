import Mathlib.Logic.Relation
import StaticWiring.Proofs.Definition.Catalog

/-!
# What a selection keeps

A definition with a factory bean is of no use without it, so that a rejected definition takes with
it all that is made by its factory methods, directly or through others. The orphans are dropped in
rounds. What is dropped after each round is dropped for a reason, and after the last one no reason
is left, so that the rounds lead to the same result however the factory beans refer to each other:
in chains, in cycles, or to definitions that are not in the catalog.

## Main definitions

* `Catalog.MadeBy` — the factory bean of a definition.
* `Catalog.IsAccepted` — nothing on the chain of factory beans is rejected.
* `Catalog.Splits` — what is dropped and what is kept after some rounds.

## Main results

* `Catalog.Splits.next` — what one more round drops.
* `Catalog.dropOrphans_eq` — what is kept after all rounds.
* `Catalog.names_select`, `Catalog.get?_select` — the names of a selection, and what is found under
  them.
* `Catalog.select_accepted` — what a selection keeps, and what the default one never does.
-/

open Relation

namespace StaticWiring.Catalog

variable {c : Catalog} {keeps : Definition → Bool} {d e : Definition} {dropped : List String}
  {kept : List Definition} {name : String}

/-! ### Chains of factory beans -/

theorem get?_eq_some_iff : c.get? name = some d ↔ d ∈ c.definitions ∧ d.name = name := by
  constructor
  · intro found
    exact ⟨List.mem_of_find?_eq_some found, by simpa using List.find?_some found⟩
  · rintro ⟨member, rfl⟩
    obtain ⟨e, found⟩ := Option.isSome_iff_exists.1 (contains_iff.2 (List.mem_map_of_mem member))
    have same : e.name = d.name := by simpa using List.find?_some found
    rw [found, List.inj_on_of_nodup_map c.nodup_names (List.mem_of_find?_eq_some found) member same]

/-- The names of some definitions of the catalog tell these from all others. Whether a definition is
kept can thus be asked by its name. -/
theorem name_mem_map_iff (sublist : kept.Sublist c.definitions) (hd : d ∈ c.definitions) :
    d.name ∈ kept.map (·.name) ↔ d ∈ kept := by
  refine ⟨fun named => ?_, List.mem_map_of_mem⟩
  obtain ⟨e, he, same⟩ := List.mem_map.1 named
  rwa [← List.inj_on_of_nodup_map c.nodup_names (sublist.subset he) hd same]

/-- The definition `d` is made by a factory method that is called on the instance of `e`. A factory
bean that is not in the catalog makes nothing. -/
def MadeBy (c : Catalog) (d e : Definition) : Prop :=
  ∃ name, d.factoryBean? = some name ∧ c.get? name = some e

/-- Neither the definition is rejected nor any other one on its chain of factory beans. Chains may
be cyclic, which is why acceptance is not defined along them. -/
def IsAccepted (c : Catalog) (keeps : Definition → Bool) (d : Definition) : Prop :=
  ∀ e, ReflTransGen c.MadeBy d e → keeps e = true

theorem IsAccepted.factoryBean (h : c.IsAccepted keeps d) (made : c.MadeBy d e) :
    c.IsAccepted keeps e :=
  fun r chain => h r (.head made chain)

theorem mem_orphans_iff : d ∈ orphans dropped kept ↔
    d ∈ kept ∧ ∃ name, d.factoryBean? = some name ∧ name ∈ dropped := by
  simp [orphans, Option.any_eq_true]

/-! ### Rounds -/

/-- What is dropped and what is kept after some rounds. It is the invariant of the rounds. -/
structure Splits (c : Catalog) (keeps : Definition → Bool) (dropped : List String)
    (kept : List Definition) : Prop where
  /-- What is not dropped is kept, in order. -/
  kept_eq : kept = c.definitions.filter fun d => !dropped.contains d.name
  /-- Nothing that is kept is rejected itself. -/
  accepts : ∀ d ∈ kept, keeps d = true
  /-- Nothing that is dropped is accepted. -/
  justified : ∀ name ∈ dropped, ∃ d, c.get? name = some d ∧ ¬ c.IsAccepted keeps d

theorem Splits.mem_kept_iff (h : c.Splits keeps dropped kept) :
    d ∈ kept ↔ d ∈ c.definitions ∧ d.name ∉ dropped := by
  simp [h.kept_eq]

/-- At first, what is rejected is dropped. No round was made yet. -/
theorem splits_rejected (c : Catalog) (keeps : Definition → Bool) :
    c.Splits keeps (c.rejectedNames keeps) (c.definitions.filter keeps) where
  kept_eq := by
    refine List.filter_congr fun d hd => ?_
    have rejected := name_mem_map_iff (d := d)
      (List.filter_sublist (l := c.definitions) (p := fun d => !keeps d)) hd
    rw [List.mem_filter, and_iff_right hd] at rejected
    rw [Bool.eq_iff_iff, Bool.not_eq_true', Bool.eq_false_iff, ne_eq, List.contains_iff_mem,
      rejectedNames, rejected, Bool.not_eq_true', Bool.not_eq_false]
  accepts d hd := (List.mem_filter.1 hd).2
  justified name hname := by
    obtain ⟨d, hd, rfl⟩ := List.mem_map.1 hname
    obtain ⟨member, rejects⟩ := List.mem_filter.1 hd
    refine ⟨d, get?_eq_some_iff.2 ⟨member, rfl⟩, fun accepted => ?_⟩
    rw [accepted d .refl] at rejects
    cases rejects

/-- One more round drops the definitions whose factory beans are dropped already. It is the step of
the invariant. -/
theorem Splits.next (h : c.Splits keeps dropped kept) :
    c.Splits keeps (dropped ++ (orphans dropped kept).map (·.name)) (settled dropped kept) where
  kept_eq := by
    have sublist : (orphans dropped kept).Sublist c.definitions := by
      rw [h.kept_eq]
      exact List.filter_sublist.trans List.filter_sublist
    rw [settled]
    conv => lhs; rw [h.kept_eq]
    rw [List.filter_filter]
    refine List.filter_congr fun d hd => ?_
    have orphan := name_mem_map_iff sublist hd
    rw [mem_orphans_iff, h.mem_kept_iff, and_iff_right hd] at orphan
    rw [Bool.eq_iff_iff]
    simp only [Bool.and_eq_true, Bool.not_eq_true', Bool.eq_false_iff, ne_eq,
      List.contains_iff_mem, List.mem_append, orphan, Option.any_eq_true]
    by_cases gone : d.name ∈ dropped <;> simp [gone]
  accepts d hd := h.accepts d (List.mem_of_mem_filter hd)
  justified name hname := by
    rcases List.mem_append.1 hname with hname | hname
    · exact h.justified name hname
    · obtain ⟨d, hd, rfl⟩ := List.mem_map.1 hname
      obtain ⟨hkept, factory, made, gone⟩ := mem_orphans_iff.1 hd
      obtain ⟨e, he, rejected⟩ := h.justified factory gone
      refine ⟨d, get?_eq_some_iff.2 ⟨(h.mem_kept_iff.1 hkept).1, rfl⟩, fun accepted => ?_⟩
      exact rejected (accepted.factoryBean ⟨factory, made, he⟩)

/-- Once there is no orphan, whatever is accepted is kept, and nothing else. Acceptance is then read
off without any chain. -/
theorem Splits.mem_kept_iff_of_orphans_eq_nil (h : c.Splits keeps dropped kept)
    (last : orphans dropped kept = []) :
    d ∈ kept ↔ d ∈ c.definitions ∧ c.IsAccepted keeps d := by
  constructor
  · intro hd
    refine ⟨(h.mem_kept_iff.1 hd).1, fun e chain => ?_⟩
    -- The chain never leaves what is kept.
    have stays : e ∈ kept := by
      induction chain with
      | refl => exact hd
      | @tail b e _ made ih =>
        obtain ⟨name, factory, found⟩ := made
        obtain ⟨member, rfl⟩ := get?_eq_some_iff.1 found
        refine h.mem_kept_iff.2 ⟨member, fun gone => ?_⟩
        have orphan : b ∈ orphans dropped kept := mem_orphans_iff.2 ⟨ih, e.name, factory, gone⟩
        rw [last] at orphan
        exact List.not_mem_nil orphan
    exact h.accepts e stays
  · rintro ⟨hd, accepted⟩
    refine h.mem_kept_iff.2 ⟨hd, fun gone => ?_⟩
    obtain ⟨e, found, rejected⟩ := h.justified d.name gone
    rw [get?_eq_some_iff.2 ⟨hd, rfl⟩] at found
    exact rejected (Option.some.inj found ▸ accepted)

open Classical in
/-- What is left after all rounds is what is accepted, in order. There are only as many rounds as
definitions, since each but the last drops one. -/
theorem dropOrphans_eq (h : c.Splits keeps dropped kept) :
    dropOrphans dropped kept = c.definitions.filter fun d => c.IsAccepted keeps d := by
  fun_induction dropOrphans dropped kept with
  | case1 dropped kept last =>
    rw [h.kept_eq]
    refine List.filter_congr fun d hd => ?_
    have iff := h.mem_kept_iff_of_orphans_eq_nil last (d := d)
    rw [h.mem_kept_iff, and_iff_right hd, and_iff_right hd] at iff
    rw [Bool.eq_iff_iff, decide_eq_true_eq, ← iff, Bool.not_eq_true', Bool.eq_false_iff, ne_eq,
      List.contains_iff_mem]
  | case2 dropped kept more _ ih => exact ih h.next

/-! ### Selections -/

open Classical in
theorem definitions_select (c : Catalog) (keeps : Definition → Bool) :
    (c.select keeps).definitions = c.definitions.filter fun d => c.IsAccepted keeps d :=
  dropOrphans_eq (splits_rejected c keeps)

open Classical in
/-- A selection has the names of the accepted definitions, in order. No name is added or moved. -/
theorem names_select (c : Catalog) (keeps : Definition → Bool) :
    (c.select keeps).names =
      c.names.filter fun name => (c.get? name).any fun d => c.IsAccepted keeps d := by
  rw [names, names, definitions_select, List.filter_map]
  congr 1
  refine List.filter_congr fun d hd => ?_
  rw [Function.comp_apply, get?_eq_some_iff.2 ⟨hd, rfl⟩, Option.any_some]

open Classical in
/-- Under a name, a selection has what the catalog has there, if that is accepted. It is never
another definition with that name. -/
theorem get?_select (c : Catalog) (keeps : Definition → Bool) (name : String) :
    (c.select keeps).get? name = (c.get? name).filter fun d => c.IsAccepted keeps d := by
  ext d
  rw [get?_eq_some_iff, definitions_select, List.mem_filter, Option.filter_eq_some_iff,
    get?_eq_some_iff, and_right_comm]

open Classical in
/-- A selection keeps, in their order, the definitions that are accepted with all definitions on
their chain of factory beans. The default one keeps neither the container's own definitions nor
definitions of excluded types, nor anything that is made by them directly or through others. -/
theorem select_accepted (c : Catalog) (keeps : Definition → Bool) :
    (c.select keeps).definitions = (c.definitions.filter fun d => c.IsAccepted keeps d) ∧
      ∀ excluded, ∀ d ∈ (c.select (keepsByDefault excluded)).definitions,
        ∀ e, ReflTransGen c.MadeBy d e →
          e.name ∉ Definition.infrastructureTypes.map Prod.fst ∧ e.userType ∉ excluded := by
  have select (keeps : Definition → Bool) :
      (c.select keeps).definitions = c.definitions.filter fun d => c.IsAccepted keeps d :=
    dropOrphans_eq (splits_rejected c keeps)
  refine ⟨select keeps, fun excluded d hd e chain => ?_⟩
  rw [select, List.mem_filter, decide_eq_true_eq] at hd
  have kept := hd.2 e chain
  rwa [keepsByDefault, Bool.and_eq_true, Bool.not_eq_true', Bool.eq_false_iff, ne_eq,
    List.contains_iff_mem, Bool.not_eq_true', Bool.eq_false_iff, ne_eq,
    List.contains_iff_mem] at kept

/-- Of two definitions that are each made by the other, none is kept once one is rejected; a
definition whose factory bean is absent stays. -/
example :
    let madeBy (name factory : String) : Definition :=
      { name, type := .raw "lib.Part", origin := .factoryMethod "lib.Parts" (some factory) "part" }
    let ring : Catalog :=
      ⟨[madeBy "a" "b", madeBy "b" "a", madeBy "c" "absent"], by decide⟩
    (ring.select (·.name != "b")).definitions.map (·.name) = ["c"] := by
  cbv

end StaticWiring.Catalog
