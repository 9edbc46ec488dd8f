import StaticWiring.Definition.Indexed
import StaticWiring.Proofs.Definition.Selection

/-!
# What is registered is recorded

A registration changes a list of definitions in one place: a definition with a name that is taken
stands where the one before stood, which is given back, and a definition with a new name stands
behind all others. With the positions of all names beside the list, the same is done without a
search. Whatever is registered, the names stand in the order in which they were first registered,
each with the definition that was registered last. A selection is a new catalog, in which what is
kept is registered one by one, so that the same holds there.

## Main definitions

* `Catalog.Replaces` — what a registration does to a list of definitions.
* `IndexedCatalog.Records` — what a catalog has after some registrations.

## Main results

* `IndexedCatalog.replaces_register` — a registration gives back what it replaces.
* `IndexedCatalog.catalog_register`, `IndexedCatalog.get?_catalog` — without its positions, an
  indexed catalog is what a catalog is.
* `IndexedCatalog.records_ofList` — a catalog after any registrations.
* `IndexedCatalog.registered_recorded` — the same for a selection, and after further registrations.
-/

namespace StaticWiring

/-! ### Replacing in a list -/

namespace Catalog

variable {ds : List Definition} {d e : Definition} {i : Nat}

/-- The definition `d` enters a list: behind all others if its name is new, and otherwise in the
place of the one with its name. -/
inductive Replaces (d : Definition) :
    List Definition → Option Definition → List Definition → Prop
  /-- The name is new. -/
  | last {before : List Definition} (fresh : d.name ∉ before.map (·.name)) :
    Replaces d before none (before ++ [d])
  /-- The name is that of another definition. -/
  | inPlace {front back : List Definition} {e : Definition} (same : e.name = d.name) :
    Replaces d (front ++ e :: back) (some e) (front ++ d :: back)

theorem replaces_set (found : ds[i]? = some e) (same : e.name = d.name) :
    Replaces d ds (some e) (ds.set i d) := by
  obtain ⟨hi, rfl⟩ := List.getElem?_eq_some_iff.1 found
  have split : ds.take i ++ ds[i] :: ds.drop (i + 1) = ds := by
    rw [List.getElem_cons_drop, List.take_append_drop]
  rw [List.set_eq_take_append_cons_drop, if_pos hi]
  conv => arg 2; rw [← split]
  exact .inPlace same

/-- The first definition with a name is the only one, so that it is replaced at its position.
Replacing by name and by position are the same then. -/
theorem replaceFirst_eq_set (nodup : (ds.map (·.name)).Nodup) (found : ds[i]? = some e)
    (same : e.name = d.name) : replaceFirst d ds = ds.set i d := by
  induction ds generalizing i with
  | nil => rfl
  | cons x ds ih =>
    rw [List.map_cons, List.nodup_cons] at nodup
    cases i with
    | zero =>
      obtain rfl : x = e := Option.some.inj found
      rw [replaceFirst, if_pos (beq_iff_eq.2 same), List.set_cons_zero]
    | succ i =>
      have other : x.name ≠ d.name := fun own =>
        nodup.1 (own ▸ same ▸ List.mem_map_of_mem (List.mem_of_getElem? found))
      rw [replaceFirst, if_neg (mt beq_iff_eq.1 other), ih nodup.2 found, List.set_cons_succ]

end Catalog

namespace IndexedCatalog

variable {t : IndexedCatalog} {d : Definition} {name : String}

/-! ### One registration -/

/-- What a registration gives back is what was found under the name. Nothing is given back for a new
name. -/
theorem register_fst (t : IndexedCatalog) (d : Definition) :
    (t.register d).1 = t.get? d.name := by
  by_cases h : d.name ∈ t.positions
  · rw [register, dif_pos h, get?, dif_pos h]
  · rw [register, dif_neg h, get?, dif_neg h]

/-- A registration gives back what it replaces, and changes nothing else. The replaced definition
can thus be told by the caller, as a warning is. -/
theorem replaces_register (t : IndexedCatalog) (d : Definition) :
    Catalog.Replaces d t.definitions (t.register d).1 (t.register d).2.definitions := by
  by_cases h : d.name ∈ t.positions
  · rw [register, dif_pos h]
    exact Catalog.replaces_set (getElem?_definitions h) (name_definitionAt h)
  · rw [register, dif_neg h]
    exact .last (mt mem_positions_iff.2 h)

/-! ### Without positions -/

theorem get?_catalog (t : IndexedCatalog) (name : String) :
    t.catalog.get? name = t.get? name := by
  by_cases h : name ∈ t.positions
  · rw [get?, dif_pos h]
    have member := List.mem_of_getElem? (getElem?_definitions h)
    exact Catalog.get?_eq_some_iff.2 ⟨member, name_definitionAt h⟩
  · have absent : ¬ t.catalog.contains name = true :=
      mt Catalog.contains_iff.1 (mt mem_positions_iff.2 h)
    rw [get?, dif_neg h]
    simpa [Catalog.contains] using absent

/-- A definition is registered as in a catalog without positions. The positions are kept along the
way, and are never needed for the result. -/
theorem catalog_register (t : IndexedCatalog) (d : Definition) :
    (t.register d).2.catalog = t.catalog.register d := by
  refine Catalog.eq_of_definitions_eq ?_
  by_cases h : d.name ∈ t.positions
  · have taken : t.catalog.contains d.name = true :=
      Catalog.contains_iff.2 (mem_positions_iff.1 h)
    rw [register, dif_pos h, Catalog.register, dif_pos taken]
    exact (Catalog.replaceFirst_eq_set t.nodup_names (getElem?_definitions h)
      (name_definitionAt h)).symm
  · have fresh : d.name ∉ t.catalog.names := mt mem_positions_iff.2 h
    rw [register, dif_neg h]
    exact (Catalog.definitions_register_of_fresh fresh).symm

theorem catalog_ofList (ds : List Definition) : (ofList ds).catalog = Catalog.ofList ds :=
  (List.foldl_hom catalog fun t d => (catalog_register t d).symm).symm

theorem catalog_select (t : IndexedCatalog) (keeps : Definition → Bool) :
    (t.select keeps).catalog = t.catalog.select keeps := by
  rw [select, catalog_ofList]
  exact Catalog.eq_of_definitions_eq (Catalog.definitions_ofList (Catalog.nodup_names _))

/-! ### After any registrations -/

/-- The catalog has what was registered. It speaks of the registrations only, in their order, and
not of how they are stored. -/
structure Records (t : IndexedCatalog) (registered : List Definition) : Prop where
  /-- Without positions, it is the catalog of the definitions. -/
  catalog_eq : t.catalog = Catalog.ofList registered
  /-- The names stand in the order in which they were first registered, without repetition. -/
  names_eq : t.names = (registered.map (·.name)).eraseDups
  /-- Under a name is found what was registered last. -/
  get?_eq : ∀ name, t.get? name = registered.findRev? (·.name == name)
  /-- Without positions, the same is found. -/
  get?_catalog_eq : ∀ name, t.catalog.get? name = t.get? name
  /-- The next registration gives back what was registered last under the same name. -/
  register_fst_eq : ∀ d, (t.register d).1 = registered.findRev? (·.name == d.name)
  /-- What it gives back is what it replaces. -/
  replaces : ∀ d, Catalog.Replaces d t.definitions (t.register d).1 (t.register d).2.definitions

theorem records_ofList (ds : List Definition) : (ofList ds).Records ds where
  catalog_eq := catalog_ofList ds
  names_eq := by
    rw [← Catalog.names_ofList, ← catalog_ofList]
    rfl
  get?_eq name := by rw [← get?_catalog, catalog_ofList, Catalog.get?_ofList]
  get?_catalog_eq := get?_catalog (ofList ds)
  register_fst_eq d := by rw [register_fst, ← get?_catalog, catalog_ofList, Catalog.get?_ofList]
  replaces := replaces_register (ofList ds)

/-- A selection has what is selected, and then what is registered in it. Positions are computed anew
for it, since they differ from those in the catalog. -/
theorem records_select (t : IndexedCatalog) (keeps : Definition → Bool) (more : List Definition) :
    ((t.select keeps).registerAll more).Records ((t.select keeps).definitions ++ more) := by
  have kept : (t.select keeps).definitions = (t.catalog.select keeps).definitions :=
    congrArg Catalog.definitions (catalog_select t keeps)
  have joined : (t.select keeps).registerAll more =
      ofList ((t.catalog.select keeps).definitions ++ more) :=
    List.foldl_append.symm
  rw [kept, joined]
  exact records_ofList _

open Classical in
/-- A catalog has what was registered, whatever that is. A selection, which is the same without
positions, has the names whose last definition is accepted, in the order in which they were first
registered, and under each of them this definition; what is registered in it afterwards is recorded
in turn. -/
theorem registered_recorded (ds : List Definition) :
    (ofList ds).Records ds ∧
    ∀ keeps : Definition → Bool,
      let selected := (ofList ds).select keeps
      let accepted : Definition → Bool := fun d => (Catalog.ofList ds).IsAccepted keeps d
      selected.catalog = (Catalog.ofList ds).select keeps ∧
      selected.names = (ds.map (·.name)).eraseDups.filter
        (fun name => (ds.findRev? (·.name == name)).any accepted) ∧
      (∀ name, selected.get? name = (ds.findRev? (·.name == name)).filter accepted) ∧
      ∀ more, (selected.registerAll more).Records (selected.definitions ++ more) := by
  refine ⟨records_ofList ds, fun keeps => ?_⟩
  intro selected accepted
  have unindexed : selected.catalog = (Catalog.ofList ds).select keeps := by
    rw [catalog_select, catalog_ofList]
  refine ⟨unindexed, ?_, fun name => ?_, records_select (ofList ds) keeps⟩
  · have names : selected.names = ((Catalog.ofList ds).select keeps).names :=
      congrArg Catalog.names unindexed
    simp only [names, Catalog.names_select, Catalog.names_ofList, Catalog.get?_ofList, accepted]
  · rw [← get?_catalog, unindexed, Catalog.get?_select, Catalog.get?_ofList]

end IndexedCatalog

end StaticWiring
