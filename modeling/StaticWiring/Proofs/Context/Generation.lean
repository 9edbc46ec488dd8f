import StaticWiring.Build
import StaticWiring.Proofs.ClassForest.Distribution
import StaticWiring.Proofs.Wiring.Resolution

/-!
# The generation of a context

A context that is generated has a catalog, wirings of the definitions of the catalog, and an order
of the wirings. Its classes, and what it asks of the native image, follow from these.

## Main definitions

* `GeneratedContext.added` — the classes of a context.
* `ContextPlan.assembly` — what the definitions of a context are wired with.
* `ContextPlan.Generates` — how a context comes from its catalog, its wirings and their order.

## Main results

* `ContextPlan.exists_generates` — every generated context comes about this way.
* `ContextPlan.generate_of_wired` — and it does if its definitions can be wired and ordered.
-/

namespace StaticWiring

variable {plan : ContextPlan} {build : Build} {options : Options} {forest : ClassForest}
  {config : NativeConfig} {context : GeneratedContext} {catalog : Catalog}
  {wired ordered : List Wiring}

/-- The classes that a context has added to those of a forest. They come behind all others, so that
what was there before can be cut off. -/
def GeneratedContext.added (context : GeneratedContext) (forest : ClassForest) :
    List GeneratedClass :=
  context.forest.classes.drop forest.size

namespace ContextPlan

/-! ### The steps of a generation -/

/-- What the definitions of a context are wired with. Visibility is judged from the package of the
generated classes. -/
def assembly (plan : ContextPlan) (build : Build) (forest : ClassForest) (catalog : Catalog) :
    Assembly :=
  ⟨build.classPath, catalog, plan.environment, forest.package⟩

/-- The forest with the classes of a context. The order of the wirings decides which class registers
what. -/
def grow (plan : ContextPlan) (options : Options) (forest : ClassForest) (ws : List Wiring) :
    ClassForest :=
  forest.distribute (max options.statementsPerClass 1) plan.parent plan.className ws

/-- What a context asks of the native image. The requests for the wirings come before those for the
initializer. -/
def requests (plan : ContextPlan) (forest : ClassForest) (wired : List Wiring) :
    List NativeConfig.Request :=
  wired.flatMap Wiring.requests ++ ClassForest.creationRequests (forest.qualify plan.className)

/-- How a generated context comes from the definitions of its catalog, the wirings of these
definitions, and the order of the wirings. -/
structure Generates (plan : ContextPlan) (build : Build) (options : Options)
    (forest : ClassForest) (config : NativeConfig) (catalog : Catalog)
    (wired ordered : List Wiring) (context : GeneratedContext) : Prop where
  /-- The catalog holds the definitions that code is generated for. -/
  catalog_eq : plan.catalog build options = .ok catalog
  /-- Every definition is wired. -/
  wires : List.Forall₂ (plan.assembly build forest catalog).Wires catalog.definitions wired
  /-- The wirings are ordered. -/
  order_eq : Schedule.order wired = .ok ordered
  /-- The classes register the wirings in their order. -/
  forest_eq : context.forest = plan.grow options forest ordered
  /-- The native image is asked for what the wirings and the initializer need. -/
  config_eq : context.config = config.addAll (plan.requests forest wired)
  /-- The wirings are counted. -/
  definitionCount_eq : context.definitionCount = wired.length

theorem exists_generates (h : plan.generate build options forest config = .ok context) :
    ∃ catalog wired ordered,
      plan.Generates build options forest config catalog wired ordered context := by
  simp only [generate] at h
  split at h
  · cases h
  · next catalog hcatalog =>
    split at h
    · cases h
    · next wired hwired =>
      obtain ⟨wires, requests⟩ := Assembly.wireAll_eq_ok hwired
      split at h
      · cases h
      · next grown creation hgrown =>
        obtain ⟨ordered, hordered, rfl, rfl⟩ := ClassForest.addContext_eq_ok hgrown
        rw [requests] at h
        cases h
        exact ⟨catalog, wired, ordered, hcatalog, wires, hordered, rfl, rfl, rfl⟩

section

variable (h : plan.Generates build options forest config catalog wired ordered context)

include h

theorem Generates.classes_eq : context.forest.classes = forest.classes ++
    ClassForest.contextClasses (max options.statementsPerClass 1) forest.size plan.parent
      plan.className ordered := by
  rw [h.forest_eq, grow, ClassForest.classes_distribute]

theorem Generates.added_eq : context.added forest =
    ClassForest.contextClasses (max options.statementsPerClass 1) forest.size plan.parent
      plan.className ordered := by
  rw [GeneratedContext.added, h.classes_eq, ClassForest.size, List.drop_left]

theorem Generates.role_of_mem_added {c : GeneratedClass} (hc : c ∈ context.added forest) :
    c.role = .initializer ∨ c.role = .fork := by
  rw [h.added_eq] at hc
  exact ClassForest.role_of_mem_contextClasses hc

/-- The initializer stands behind all classes so far. It is therefore found by the number of the
classes before it. -/
theorem Generates.exists_initializer : ∃ c, context.forest.get? forest.size = some c ∧
    c.name = plan.className ∧ c.role = .initializer ∧ c.parent = plan.parent := by
  rw [ClassForest.get?, h.classes_eq, ClassForest.size,
    List.getElem?_append_right (Nat.le_refl _), Nat.sub_self]
  exact ⟨_, rfl, rfl, rfl, rfl⟩

/-- The classes that are added hold the wirings in their order. Read one after the other, they thus
give the wirings back. -/
theorem Generates.flatMap_wirings_added :
    (context.added forest).flatMap (·.wirings) = ordered := by
  rw [h.added_eq]
  exact ClassForest.flatMap_wirings_contextClasses (by omega) _ _ _ _

theorem Generates.wires_of_mem {w : Wiring} (hw : w ∈ ordered) :
    (plan.assembly build forest catalog).Wires w.definition w :=
  Assembly.exists_wires_of_forall₂ h.wires ((Schedule.perm_of_order h.order_eq).subset hw)

theorem Generates.wires_of_mem_added {c : GeneratedClass} (hc : c ∈ context.added forest)
    {w : Wiring} (hw : w ∈ c.wirings) :
    (plan.assembly build forest catalog).Wires w.definition w := by
  refine h.wires_of_mem ?_
  rw [← h.flatMap_wirings_added]
  exact List.mem_flatMap.2 ⟨c, hc, hw⟩

theorem Generates.exists_mem_added_iff (w : Wiring) :
    (∃ c ∈ context.added forest, w ∈ c.wirings) ↔ w ∈ wired := by
  rw [← List.mem_flatMap, h.flatMap_wirings_added]
  exact (Schedule.perm_of_order h.order_eq).mem_iff

end

theorem generate_of_wired (hcatalog : plan.catalog build options = .ok catalog)
    (hwired : (plan.assembly build forest catalog).wireAll.outcome = .ok wired)
    (hordered : Schedule.order wired = .ok ordered) :
    plan.generate build options forest config =
      .ok ⟨plan.grow options forest ordered, config.addAll (plan.requests forest wired),
        wired.length⟩ := by
  have requests := (Assembly.wireAll_eq_ok hwired).2
  simp only [assembly] at hwired requests
  simp only [generate, hcatalog, hwired, requests, ClassForest.addContext, hordered,
    ContextPlan.requests, grow]

end ContextPlan

end StaticWiring
