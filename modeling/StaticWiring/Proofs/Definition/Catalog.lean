import StaticWiring.Definition.Catalog
import StaticWiring.Proofs.Lists

/-!
# Catalogs that grow

A definition with a new name is registered behind all others, so that what was registered before a
definition stays the same from then on. A definition with a name that is taken is the only one under
its name from then on, in the place of the one before.

## Main definitions

* `Catalog.before` — the definitions before a position.

## Main results

* `Catalog.definitions_register_of_fresh` — a definition with a new name comes last.
* `Catalog.names_ofList`, `Catalog.get?_ofList` — the names of a catalog of any definitions, and
  what is found under them.
* `Catalog.definitions_ofList` — the catalog of definitions with distinct names.
* `Catalog.register_before` — a catalog is built by the registration of its definitions.
-/

namespace StaticWiring.Catalog

/-! ### Registration -/

theorem definitions_register_of_fresh {c : Catalog} {d : Definition}
    (fresh : d.name ∉ c.names) : (c.register d).definitions = c.definitions ++ [d] := by
  have absent : ¬ c.contains d.name = true := fun taken => fresh (contains_iff.1 taken)
  rw [register, dif_neg absent]

theorem definitions_foldl_register (ds : List Definition) (c : Catalog)
    (nodup : (c.names ++ ds.map (·.name)).Nodup) :
    (ds.foldl register c).definitions = c.definitions ++ ds := by
  induction ds generalizing c with
  | nil => rw [List.foldl_nil, List.append_nil]
  | cons d ds ih =>
    have fresh : d.name ∉ c.names := by
      intro taken
      exact (List.nodup_append.1 nodup).2.2 d.name taken d.name (by simp) rfl
    have definitions := definitions_register_of_fresh fresh
    rw [List.foldl_cons, ih, definitions, List.append_assoc, List.singleton_append]
    rw [names, definitions]
    simpa [names] using nodup

theorem definitions_ofList {ds : List Definition} (nodup : (ds.map (·.name)).Nodup) :
    (ofList ds).definitions = ds :=
  definitions_foldl_register ds {} nodup

theorem definitions_ofList_infrastructure :
    (ofList Definition.infrastructure).definitions = Definition.infrastructure :=
  definitions_ofList (by decide)

/-- A name that is taken keeps its place, and a new one comes last. The definition that stood there
is overridden. -/
theorem names_register (c : Catalog) (d : Definition) :
    (c.register d).names = if d.name ∈ c.names then c.names else c.names ++ [d.name] := by
  rw [register]
  split
  · next taken =>
    rw [if_pos (show d.name ∈ c.names from contains_iff.1 taken)]
    exact map_name_replaceFirst d c.definitions
  · next free =>
    rw [if_neg (show d.name ∉ c.names from mt contains_iff.2 free)]
    exact List.map_append

theorem ofList_concat (ds : List Definition) (d : Definition) :
    ofList (ds ++ [d]) = (ofList ds).register d :=
  List.foldl_concat ..

/-- The names of a catalog stand in the order in which they were first registered. Overriding
changes the definition under a name, and never its place. -/
theorem names_ofList (ds : List Definition) :
    (ofList ds).names = (ds.map (·.name)).eraseDups := by
  induction ds using List.reverseRecOn with
  | nil => rfl
  | append_singleton ds d ih =>
    rw [ofList_concat, names_register, ih, List.map_append, List.map_singleton,
      Lists.eraseDups_concat]
    simp only [List.mem_eraseDups]

/-- Under a name stands the last definition that was registered under it. Together with the order of
the names, it determines the catalog. -/
theorem get?_ofList (ds : List Definition) (name : String) :
    (ofList ds).get? name = ds.findRev? (·.name == name) := by
  induction ds using List.reverseRecOn with
  | nil => rfl
  | append_singleton ds d ih =>
    rw [ofList_concat, get?_register, ih, List.findRev?_eq_find?_reverse,
      List.findRev?_eq_find?_reverse, List.reverse_concat]
    by_cases same : d.name = name
    · simp [same]
    · simp [same, Ne.symm same]

/-! ### Earlier definitions -/

/-- The catalog of the first `i` definitions. Conditions are judged against it. -/
def before (c : Catalog) (i : Nat) : Catalog where
  definitions := c.definitions.take i
  nodup_names := c.nodup_names.sublist ((List.take_sublist i c.definitions).map _)

theorem definitions_before (c : Catalog) (i : Nat) :
    (c.before i).definitions = c.definitions.take i := rfl

theorem eq_of_definitions_eq {c c' : Catalog} (h : c.definitions = c'.definitions) : c = c' := by
  cases c
  cases c'
  cases h
  rfl

/-- What is registered under a new name comes behind everything else. Nothing is overridden then, so
that earlier conditions need not be judged again. -/
theorem getElem?_register_cases {c : Catalog} {d e : Definition} {i : Nat}
    (fresh : d.name ∉ c.names) (h : (c.register d).definitions[i]? = some e) :
    c.definitions[i]? = some e ∧ (c.register d).before i = c.before i ∨
      e = d ∧ (c.register d).before i = c := by
  have definitions := definitions_register_of_fresh fresh
  rw [definitions] at h
  refine (Lists.getElem?_concat_cases h).imp ?_ ?_ <;> rintro ⟨here, earlier⟩ <;>
    refine ⟨here, eq_of_definitions_eq ?_⟩ <;> rwa [definitions_before, definitions]

/-- The definitions before a position are those before the preceding one and the one there. It is
how the registrations are gone through one by one. -/
theorem definitions_before_add_one {c : Catalog} {d : Definition} {i : Nat}
    (h : c.definitions[i]? = some d) :
    (c.before (i + 1)).definitions = (c.before i).definitions ++ [d] := by
  rw [definitions_before, definitions_before, List.take_add_one, h, Option.toList_some]

theorem fresh_before {c : Catalog} {d : Definition} {i : Nat} (h : c.definitions[i]? = some d) :
    d.name ∉ (c.before i).names := by
  have distinct := (c.before (i + 1)).nodup_names
  rw [definitions_before_add_one h, List.map_append, List.nodup_append] at distinct
  exact fun taken => distinct.2.2 d.name taken d.name (by simp) rfl

/-- A catalog is built by the registration of its definitions one by one. The definitions come in
the order in which they stand. -/
theorem register_before {c : Catalog} {d : Definition} {i : Nat}
    (h : c.definitions[i]? = some d) : (c.before i).register d = c.before (i + 1) :=
  eq_of_definitions_eq ((definitions_register_of_fresh (fresh_before h)).trans
    (definitions_before_add_one h).symm)

/-! ### Selection -/

theorem dropOrphans_of_orphans_eq_nil {dropped : List String} {kept : List Definition}
    (h : orphans dropped kept = []) : dropOrphans dropped kept = kept := by
  rw [dropOrphans, dif_pos h]

theorem keepsByDefault_of_mem_infrastructure {d : Definition} (excluded : List String)
    (h : d ∈ Definition.infrastructure) : keepsByDefault excluded d = false := by
  obtain ⟨entry, hentry, rfl⟩ := List.mem_map.1 h
  have listed : (Definition.infrastructureTypes.map Prod.fst).contains entry.1 = true :=
    List.contains_iff_mem.2 (List.mem_map_of_mem hentry)
  simp only [keepsByDefault, listed, Bool.not_true, Bool.false_and]

end StaticWiring.Catalog
