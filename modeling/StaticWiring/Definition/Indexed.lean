import Std.Data.HashMap.Lemmas
import StaticWiring.Definition.Catalog

/-!
# Catalogs with positions

A catalog can be kept with the position of every name, so that a definition is found and replaced
without a search. The positions then say what the list says: a name is at a position if the
definition there has it. A registration keeps this in both of its cases: a definition with a name
that is taken goes to the position of the name, and the one that stood there is given back, while a
definition with a new name goes behind all others.

## Main definitions

* `IndexedCatalog` — definitions in order with the positions of their names.
* `IndexedCatalog.get?`, `IndexedCatalog.register` — definitions by name.
* `IndexedCatalog.catalog` — the catalog without positions.
* `IndexedCatalog.select` — a new catalog of what is kept.

## Main results

* `IndexedCatalog.nodup_names` — no name occurs twice.
-/

namespace StaticWiring

/-- Definitions in order, with the positions of their names. The positions spare a search by name,
and the last field keeps them in step with the definitions. -/
structure IndexedCatalog where
  /-- The definitions in order. -/
  definitions : List Definition := []
  /-- The positions of the names. -/
  positions : Std.HashMap String Nat := {}
  /-- A name is at a position if the definition there has it. -/
  position_iff : ∀ (name : String) (i : Nat),
    positions[name]? = some i ↔ (definitions.map (·.name))[i]? = some name := by simp

namespace IndexedCatalog

variable {t : IndexedCatalog} {d : Definition} {name : String}

/-- The names in order. They are the same as those of the catalog without positions. -/
def names (t : IndexedCatalog) : List String :=
  t.definitions.map (·.name)

theorem mem_positions_iff : name ∈ t.positions ↔ name ∈ t.names := by
  rw [Std.HashMap.mem_iff_isSome_getElem?, Option.isSome_iff_exists, names, List.mem_iff_getElem?]
  exact exists_congr (t.position_iff name)

/-- Every name has one position, so that no name occurs twice. It follows from the positions alone,
so that no test is needed when a definition is pushed. -/
theorem nodup_names (t : IndexedCatalog) : t.names.Nodup := by
  refine List.pairwise_iff_getElem.2 fun i j hi hj hij same => ?_
  have there : t.names[j]? = some t.names[j] := List.getElem?_eq_getElem hj
  have here : t.names[i]? = some t.names[j] := same ▸ List.getElem?_eq_getElem hi
  have first := (t.position_iff _ i).2 here
  have second := (t.position_iff _ j).2 there
  exact Nat.ne_of_lt hij (Option.some.inj (first.symm.trans second))

theorem getElem?_names (h : name ∈ t.positions) : t.names[t.positions[name]]? = some name :=
  (t.position_iff _ _).1 (Std.HashMap.getElem?_eq_some_getElem h)

theorem position_lt (h : name ∈ t.positions) : t.positions[name] < t.definitions.length := by
  have bound := (List.getElem?_eq_some_iff.1 (getElem?_names h)).1
  rwa [names, List.length_map] at bound

/-- The definition at the position of a name. The position is in range because the positions are in
step with the definitions. -/
def definitionAt (t : IndexedCatalog) (name : String) (h : name ∈ t.positions) : Definition :=
  t.definitions.get ⟨t.positions[name], position_lt h⟩

theorem getElem?_definitions (h : name ∈ t.positions) :
    t.definitions[t.positions[name]]? = some (t.definitionAt name h) :=
  List.getElem?_eq_getElem (position_lt h)

theorem name_definitionAt (h : name ∈ t.positions) : (t.definitionAt name h).name = name := by
  have here := getElem?_names h
  rwa [names, List.getElem?_map, getElem?_definitions h, Option.map_some, Option.some.injEq] at here

/-- The names stay once `d` stands at the position of its name. A replacement thus keeps the
positions that there are. -/
theorem map_name_set (h : d.name ∈ t.positions) :
    (t.definitions.set t.positions[d.name] d).map (·.name) = t.names := by
  obtain ⟨bound, here⟩ := List.getElem?_eq_some_iff.1 (getElem?_names h)
  calc (t.definitions.set t.positions[d.name] d).map (·.name)
      = t.names.set t.positions[d.name] d.name := List.map_set
    _ = t.names.set t.positions[d.name] t.names[t.positions[d.name]] := by rw [here]
    _ = t.names := List.set_getElem_self bound

/-- Only the name of `d` is at the position behind all others, and it was at no position before. It
carries the last field over to the catalog with `d` at its end. -/
theorem position_iff_concat (h : d.name ∉ t.positions) (name : String) (i : Nat) :
    (t.positions.insert d.name t.definitions.length)[name]? = some i ↔
      ((t.definitions ++ [d]).map (·.name))[i]? = some name := by
  have length : t.names.length = t.definitions.length := List.length_map _
  rw [List.map_append, List.map_singleton, ← names, ← length, Std.HashMap.getElem?_insert]
  by_cases same : d.name = name
  · rw [if_pos (beq_iff_eq.2 same), Option.some.injEq, ← same]
    constructor
    · rintro rfl
      exact List.getElem?_concat_length
    · intro found
      have bound := (List.getElem?_eq_some_iff.1 found).1
      have behind : ¬ i < t.names.length := fun hi => by
        rw [List.getElem?_append_left hi] at found
        exact h (mem_positions_iff.2 (List.mem_of_getElem? found))
      simp only [List.length_append, List.length_singleton] at bound
      omega
  · rw [if_neg (mt beq_iff_eq.1 same), t.position_iff, ← names, List.getElem?_append]
    split
    · rfl
    · next behind =>
      rw [List.getElem?_eq_none (Nat.le_of_not_lt behind), List.getElem?_singleton]
      split <;> simp [same]

/-! ### Operations -/

/-- The definition with a name. It takes one lookup among the positions. -/
def get? (t : IndexedCatalog) (name : String) : Option Definition :=
  if h : name ∈ t.positions then some (t.definitionAt name h) else none

/-- The catalog with `d` at the position of its name. The definition that stood there is gone, and
the positions do not change. -/
def replace (t : IndexedCatalog) (d : Definition) (h : d.name ∈ t.positions) : IndexedCatalog where
  definitions := t.definitions.set t.positions[d.name] d
  positions := t.positions
  position_iff := by
    rw [map_name_set h]
    exact t.position_iff

/-- The catalog with `d` behind all other definitions. Its position is the number of definitions so
far. -/
def push (t : IndexedCatalog) (d : Definition) (h : d.name ∉ t.positions) : IndexedCatalog where
  definitions := t.definitions ++ [d]
  positions := t.positions.insert d.name t.definitions.length
  position_iff := position_iff_concat h

/-- The catalog with one more definition, in the place of the one with its name if there is one,
which is given back. -/
def register (t : IndexedCatalog) (d : Definition) : Option Definition × IndexedCatalog :=
  if h : d.name ∈ t.positions then (some (t.definitionAt d.name h), t.replace d h)
  else (none, t.push d h)

/-- The catalog with more definitions, registered one by one. What the registrations give back is
dropped. -/
def registerAll (t : IndexedCatalog) (ds : List Definition) : IndexedCatalog :=
  ds.foldl (fun t d => (t.register d).2) t

/-- The catalog of a list of definitions. Later definitions replace earlier ones with their name, in
their place. -/
def ofList (ds : List Definition) : IndexedCatalog :=
  registerAll {} ds

/-- The catalog without positions. Everything that is asked of definitions beyond their names is
asked of it. -/
def catalog (t : IndexedCatalog) : Catalog where
  definitions := t.definitions
  nodup_names := t.nodup_names

/-- A new catalog of the definitions that `keeps` accepts, without those whose factory bean is
dropped, or made by a dropped one. -/
def select (t : IndexedCatalog) (keeps : Definition → Bool) : IndexedCatalog :=
  ofList (t.catalog.select keeps).definitions

end IndexedCatalog

end StaticWiring
