import StaticWiring.Definition.Basic

/-!
# Catalogs of definitions

A catalog holds definitions by name, in the order in which the names were first registered. A
definition is a candidate for a type if its type can be used there and the type arguments agree as
far as both are known.

## Main definitions

* `Catalog.register`, `Catalog.get?` — definitions by name.
* `Catalog.makePrimary` — definitions preferred among those of their types.
* `Catalog.candidates` — the definitions that can be injected for a type.
* `Catalog.select` — the definitions that a predicate keeps, without those whose factory is dropped.
* `Catalog.keepsByDefault` — what is kept for the generated code.

## Main results

* `Catalog.get?_register` — the definition under a name after a registration.
-/

namespace StaticWiring

/-- Definitions in the order in which their names were first registered. The order is the one in
which collections are injected, so that it is part of what a catalog is. -/
structure Catalog where
  /-- The definitions in order. -/
  definitions : List Definition := []
  /-- No two definitions share a name. -/
  nodup_names : (definitions.map (·.name)).Nodup := by simp

instance : Inhabited Catalog := ⟨{}⟩

namespace Catalog

/-! ### Definitions by name -/

/-- The definition with a name. As names are distinct, there is at most one. -/
def get? (c : Catalog) (name : String) : Option Definition :=
  c.definitions.find? (·.name == name)

/-- A definition has the name. It is asked before every registration. -/
def contains (c : Catalog) (name : String) : Bool :=
  (c.get? name).isSome

/-- The names in order. They are distinct. -/
def names (c : Catalog) : List String :=
  c.definitions.map (·.name)

/-- A name is taken by one of the definitions. It turns the test into membership, which is what
lemmas about lists of names speak of. -/
theorem contains_iff {c : Catalog} {name : String} :
    c.contains name = true ↔ name ∈ c.definitions.map (·.name) := by
  simp [contains, get?]

/-- A list with the first definition of the same name replaced by `d`. If there is none, the list
stays as it is. -/
def replaceFirst (d : Definition) : List Definition → List Definition
  | [] => []
  | e :: es => if e.name == d.name then d :: es else e :: replaceFirst d es

/-- A replacement keeps the names in their places. It is why a definition that replaces another one
is found where that one was. -/
theorem map_name_replaceFirst (d : Definition) (es : List Definition) :
    (replaceFirst d es).map (·.name) = es.map (·.name) := by
  induction es with
  | nil => rfl
  | cons e es ih => grind [replaceFirst]

/-- The catalog with one more definition, in the place of the one with its name if there is one. A
definition therefore never moves, even if it is replaced. -/
def register (c : Catalog) (d : Definition) : Catalog :=
  if taken : c.contains d.name then {
    definitions := replaceFirst d c.definitions
    nodup_names := by rw [map_name_replaceFirst]; exact c.nodup_names }
  else {
    definitions := c.definitions ++ [d]
    nodup_names := by
      rw [contains_iff] at taken
      rw [List.map_append, List.nodup_append]
      exact ⟨c.nodup_names, by simp, by grind⟩ }

/-- The catalog of a list of definitions. They are registered one by one, so that the last of
several with one name is the one that counts. -/
def ofList (definitions : List Definition) : Catalog :=
  definitions.foldl register {}

theorem find?_replaceFirst (d : Definition) (es : List Definition) (name : String) :
    (replaceFirst d es).find? (·.name == name) =
      if name = d.name then (es.find? (·.name == name)).map fun _ => d
      else es.find? (·.name == name) := by
  induction es with
  | nil => simp [replaceFirst]
  | cons e es ih => grind [replaceFirst]

theorem get?_register (c : Catalog) (d : Definition) (name : String) :
    (c.register d).get? name = if name = d.name then some d else c.get? name := by
  unfold register
  split
  · next h =>
    obtain ⟨e, he⟩ := Option.isSome_iff_exists.1 h
    simp only [get?, find?_replaceFirst]
    split
    · next hname =>
      rw [hname, show c.definitions.find? (·.name == d.name) = some e from he]
      rfl
    · rfl
  · grind [contains, get?]

/-- The catalog with the definitions of the given names preferred among those of their types.
Definitions that are preferred already remain so. -/
def makePrimary (c : Catalog) (names : List String) : Catalog where
  definitions := c.definitions.map fun d =>
    { d with primary := d.primary || names.contains d.name }
  nodup_names := by
    rw [List.map_map]
    exact c.nodup_names

/-! ### Candidates -/

mutual

/-- The type arguments of a candidate agree with those of the required type, where both are known
and the types are the same. -/
def argumentsAgree : (candidate required : TypeRef) → Bool
  | ⟨_, []⟩, _ => true
  | _, ⟨_, []⟩ => true
  | ⟨name, a :: as⟩, ⟨name', b :: bs⟩ => name != name' || allArgumentsAgree (a :: as) (b :: bs)

/-- The arguments agree one by one: a wildcard and the root of the hierarchy agree with
everything. -/
def allArgumentsAgree : (candidates required : List TypeRef) → Bool
  | [], [] => true
  | a :: as, b :: bs =>
    (b.name == "?" || b.name == "java.lang.Object" || (a.name == b.name && argumentsAgree a b)) &&
      allArgumentsAgree as bs
  | _, _ => false

end

/-- An instance of the type `candidate` can be injected where `required` is expected. A required
type that mentions no arguments asks nothing of those of the candidate. -/
def isCandidate (cp : ClassPath) (candidate required : TypeRef) : Bool :=
  cp.isAssignable candidate.name required.name && argumentsAgree candidate required

/-- The definitions that can be injected for a type, in order. Those that are preferred, qualified
or fallback are told apart later. -/
def candidates (c : Catalog) (cp : ClassPath) (required : TypeRef) : List Definition :=
  c.definitions.filter fun d => isCandidate cp d.type required

/-- There is a definition that can be injected for the type of a name. Type arguments play no part,
as conditions name types without them. -/
def hasCandidate (c : Catalog) (cp : ClassPath) (type : String) : Bool :=
  c.definitions.any fun d => isCandidate cp d.type (.raw type)

/-! ### Selection -/

/-- The definitions of `kept` whose factory bean is among the dropped names. They cannot be made any
more, since the instance that they need is gone. -/
def orphans (dropped : List String) (kept : List Definition) : List Definition :=
  kept.filter fun d => d.factoryBean?.any dropped.contains

/-- The definitions of `kept` whose factory bean is not among the dropped names. A definition
without factory bean is always among them. -/
def settled (dropped : List String) (kept : List Definition) : List Definition :=
  kept.filter fun d => !d.factoryBean?.any dropped.contains

theorem length_settled_lt {dropped : List String} {kept : List Definition}
    (h : orphans dropped kept ≠ []) : (settled dropped kept).length < kept.length := by
  obtain ⟨d, hd⟩ := List.exists_mem_of_ne_nil _ h
  simp only [orphans, List.mem_filter] at hd
  exact List.length_filter_lt_length_iff_exists.2 ⟨d, hd.1, by simp [hd.2]⟩

/-- The definitions of `kept` that remain once `dropped` are gone, and with them everything that is
made by what is gone. -/
def dropOrphans (dropped : List String) (kept : List Definition) : List Definition :=
  if h : orphans dropped kept = [] then kept
  else
    have := length_settled_lt h
    dropOrphans (dropped ++ (orphans dropped kept).map (·.name)) (settled dropped kept)
termination_by kept.length

/-- What remains is in the order of what was kept. Dropping never moves a definition. -/
theorem dropOrphans_sublist (dropped : List String) (kept : List Definition) :
    (dropOrphans dropped kept).Sublist kept := by
  fun_induction dropOrphans dropped kept with
  | case1 => exact List.Sublist.refl _
  | case2 dropped kept h _ ih => exact ih.trans List.filter_sublist

/-- The names of the definitions that `keeps` rejects. They are where the search for definitions
that cannot be made starts. -/
def rejectedNames (c : Catalog) (keeps : Definition → Bool) : List String :=
  (c.definitions.filter fun d => !keeps d).map (·.name)

/-- The definitions that `keeps` accepts, in order, without those whose factory bean is dropped, or
made by a dropped one. -/
def select (c : Catalog) (keeps : Definition → Bool) : Catalog where
  definitions := dropOrphans (c.rejectedNames keeps) (c.definitions.filter keeps)
  nodup_names :=
    c.nodup_names.sublist
      (((dropOrphans_sublist _ _).trans List.filter_sublist).map (·.name))

/-- What is kept for the generated code: neither the container's own definitions, whose work is done
once the code is generated, nor the definitions of excluded types. -/
def keepsByDefault (excludedTypes : List String) (d : Definition) : Bool :=
  !((Definition.infrastructureTypes.map Prod.fst).contains d.name) &&
    !excludedTypes.contains d.userType

end Catalog

end StaticWiring
