import StaticWiring.Proofs.Wiring.Plain

/-!
# What definitions are injected with

A definition that is wired is injected with what its parameters and fields ask for. Where another
definition is injected, it is one of the catalog that can be used for the type, and the qualified
one if a qualifier is given; where a collection is, it holds all definitions that can be used for
the element type, in the order of the catalog. Every parameter has its argument, and nothing is
passed to optional parameters only.

## Main definitions

* `Instantiation.IsSaturated`, `Injection.IsSaturated` — every parameter has its argument.
* `Assembly.Supplies` — the values of a wiring.

## Main results

* `Assembly.wire_supplies` — the values of the wiring that is found.
-/

namespace StaticWiring

/-! ### Arguments -/

/-- There are as many arguments as parameters. Absent arguments are passed as nothing, and count. -/
def Instantiation.IsSaturated : Instantiation → Prop
  | construction parameterTypes arguments _ => arguments.length = parameterTypes.length
  | factoryMethod _ _ _ parameterTypes arguments _ => arguments.length = parameterTypes.length
  | supplier _ => True

/-- There are as many arguments as parameters. A field takes one value in any case. -/
def Injection.IsSaturated : Injection → Prop
  | field _ _ _ _ _ => True
  | method _ _ parameterTypes arguments _ => arguments.length = parameterTypes.length

theorem length_eq_of_forall₂ {R : Parameter → Value → Prop} {ps : List Parameter}
    {values : List Value} (h : List.Forall₂ R ps values) :
    values.length = (ps.map (·.type)).length := by
  rw [List.length_map, h.length_eq]

namespace Assembly

variable {a : Assembly} {d : Definition}

theorem Calls.isSaturated {instantiation : Instantiation} (h : a.Calls d instantiation) :
    instantiation.IsSaturated := by
  cases h with
  | undescribed | undescribedMethod => exact rfl
  | construction _ _ _ passed => exact length_eq_of_forall₂ passed
  | overload _ _ _ _ _ passed => exact length_eq_of_forall₂ passed
  | supplier => exact trivial

theorem Assigns.isSaturated {self : String} {t : TypeDecl} {injection : Injection}
    (h : a.Assigns self t injection) : injection.IsSaturated := by
  cases h with
  | field => exact trivial
  | setter _ _ served => exact length_eq_of_forall₂ served

/-- The values of the wiring of a definition. Every value that reaches an instance is one of these.
-/
structure Supplies (a : Assembly) (d : Definition) (w : Wiring) : Prop where
  /-- The instance is made with what the parameters ask for. -/
  calls : a.Calls d w.instantiation
  /-- Every parameter has its argument. -/
  isSaturated : w.instantiation.IsSaturated
  /-- It is completed with what the fields and the setters of its class ask for. -/
  assigns : ∀ injection ∈ w.injections,
    ∃ t, a.classPath.get? d.type.name = some t ∧ a.Assigns d.name t injection
  /-- Every parameter of a setter has its argument. -/
  areSaturated : ∀ injection ∈ w.injections, injection.IsSaturated

end Assembly

/-! ### A shop -/

namespace Sample

/-- A certain part. The qualifier tells it from the other one. -/
def mainParameter : Parameter where
  name := "main"
  type := .raw "lib.Part"
  qualifier := some "nut"

/-- All parts. There is no part that is left out of the list. -/
def allParameter : Parameter where
  name := "all"
  type := ⟨"java.util.List", [.raw "lib.Part"]⟩

/-- A shelf that can be done without. It is passed nothing if there is none. -/
def shelfParameter : Parameter where
  name := "shelf"
  type := .raw "lib.Shelf"
  required := false

/-- A class that is constructed with these. Each parameter is supplied in another way. -/
def shopClass : TypeDecl where
  name := "app.Shop"
  constructors := [{ parameters := [mainParameter, allParameter, shelfParameter] }]

/-- The definition of this class. It is registered beside the parts. -/
def shopDefinition : Definition where
  name := "shop"
  type := .raw "app.Shop"

/-- The definition of a part. Parts differ in their names only. -/
def partDefinition (name : String) : Definition where
  name
  type := .raw "lib.Part"

/-- The generated code stands in the package of the class. Everything in it can therefore be named.
-/
def shopAssembly (catalog : Catalog) : Assembly where
  classPath := { types := [shopClass] }
  catalog
  environment := {}
  package := "app"

/-- The shop with two parts. The second one is the one that the qualifier asks for. -/
def shopCatalog : Catalog where
  definitions := [shopDefinition, partDefinition "bolt", partDefinition "nut"]
  nodup_names := by decide

/-- The wiring of the shop with parts. The names are those of the parts in their order. -/
def shopWiring (names : List String) : Wiring where
  definition := shopDefinition
  typeAccessible := true
  instantiation := .construction [mainParameter.type, allParameter.type, shelfParameter.type]
    [.bean "nut" (.raw "lib.Part"), .beans .list (.raw "lib.Part") names, .null] false
  injections := []

section

variable {catalog : Catalog} {parts : List Definition}

theorem value?_mainParameter
    (found : (shopAssembly catalog).candidates "shop" (.raw "lib.Part") = parts)
    (nut : parts.filter (·.name == "nut") = [partDefinition "nut"]) :
    (shopAssembly catalog).value? "shop" mainParameter.point =
      .ok (some (.bean "nut" (.raw "lib.Part"))) := by
  rw [Assembly.value?_eq_bean? rfl rfl rfl]
  simp [Assembly.bean?, mainParameter, Parameter.point, found, nut, Assembly.single?,
    Assembly.narrow, Assembly.prefer, partDefinition]

theorem value?_allParameter
    (found : (shopAssembly catalog).candidates "shop" (.raw "lib.Part") = parts)
    (stocked : parts ≠ []) :
    (shopAssembly catalog).value? "shop" allParameter.point =
      .ok (some (.beans .list (.raw "lib.Part") (parts.map (·.name)))) := by
  cases parts with
  | nil => exact absurd rfl stocked
  | cons part parts =>
    show (shopAssembly catalog).collection? "shop" _ .list (.raw "lib.Part") = _
    simp only [Assembly.collection?, found, List.map_cons]

theorem value?_shelfParameter
    (empty : (shopAssembly catalog).candidates "shop" (.raw "lib.Shelf") = []) :
    (shopAssembly catalog).value? "shop" shelfParameter.point = .ok none := by
  rw [Assembly.value?_eq_bean? rfl rfl rfl]
  simp [Assembly.bean?, shelfParameter, Parameter.point, empty, Assembly.single?, Assembly.narrow,
    Assembly.prefer, Assembly.absent]

theorem wire_shop (found : (shopAssembly catalog).candidates "shop" (.raw "lib.Part") = parts)
    (nut : parts.filter (·.name == "nut") = [partDefinition "nut"])
    (empty : (shopAssembly catalog).candidates "shop" (.raw "lib.Shelf") = []) :
    ((shopAssembly catalog).wire shopDefinition).outcome =
      .ok (shopWiring (parts.map (·.name))) := by
  have stocked : parts ≠ [] := by
    rintro rfl
    cases nut
  have arguments : (shopAssembly catalog).arguments "shop" "constructor"
      (.ofConstructor "app.Shop" { parameters := [mainParameter, allParameter, shelfParameter] }) =
        .ok [.bean "nut" (.raw "lib.Part"),
          .beans .list (.raw "lib.Part") (parts.map (·.name)), .null] :=
    Assembly.argumentsFrom_cons_of_ok (value?_mainParameter found nut)
      (Assembly.argumentsFrom_cons_of_ok (value?_allParameter found stocked)
        (Assembly.argumentsFrom_cons_of_ok (value?_shelfParameter empty) rfl))
  refine Assembly.wire_of_parts ?_
    (Assembly.injections_of_plain (t := shopClass) rfl rfl rfl rfl)
  exact Assembly.construct_of_single (d := shopDefinition) (t := shopClass) rfl arguments

end

theorem wire_shopCatalog : ((shopAssembly shopCatalog).wire shopDefinition).outcome =
    .ok (shopWiring ["bolt", "nut"]) := by
  have found : (shopAssembly shopCatalog).candidates "shop" (.raw "lib.Part") =
      [partDefinition "bolt", partDefinition "nut"] := by cbv
  exact wire_shop found (by cbv) (by cbv)

end Sample

namespace Assembly

variable {a : Assembly} {d : Definition}

/-! ### The values of a wiring -/

/-- A definition that is wired is injected with what its injection points ask for. It holds of every
origin of the definition. -/
theorem wire_supplies {w : Wiring} (h : (a.wire d).outcome = .ok w) : a.Supplies d w := by
  obtain ⟨instantiation, injections, made, completed, rfl, -⟩ := exists_parts_of_wire h
  have calls := calls_of_instantiate made
  have assigns := (injections_eq_ok completed).1
  refine ⟨calls, calls.isSaturated, assigns, fun injection hi => ?_⟩
  obtain ⟨t, -, assigned⟩ := assigns injection hi
  exact assigned.isSaturated

theorem wire_supplies_shop :
    ((Sample.shopAssembly Sample.shopCatalog).wire Sample.shopDefinition).outcome =
        .ok (Sample.shopWiring ["bolt", "nut"]) ∧
      (Sample.shopAssembly Sample.shopCatalog).Supplies Sample.shopDefinition
        (Sample.shopWiring ["bolt", "nut"]) :=
  ⟨Sample.wire_shopCatalog, wire_supplies Sample.wire_shopCatalog⟩

end Assembly

end StaticWiring
