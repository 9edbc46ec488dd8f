import StaticWiring.Proofs.Context.Plain

/-!
# The registrations of a context

The classes of a generated context register the definitions of its catalog: none of them is lost or
registered twice, and whatever a wiring mentions is registered before it.

## Main definitions

* `Schedule.IsGrounded` — every wiring of a list mentions wirings before it only.

## Main results

* `ContextPlan.grounded_registered` — what the classes of a context register, and in which order.
-/

namespace StaticWiring

variable {plan : ContextPlan} {build : Build} {options : Options} {forest : ClassForest}
  {config : NativeConfig} {context : GeneratedContext} {catalog : Catalog}
  {wired ordered : List Wiring}

/-- Every wiring of the list mentions only definitions of wirings before it. Definitions can thus be
registered in the order of the list without any reference ahead. -/
def Schedule.IsGrounded (ws : List Wiring) : Prop :=
  ∀ (i : Nat) (w : Wiring), ws[i]? = some w →
    ∀ name, w.Mentions name → ∃ j < i, ∃ v : Wiring, ws[j]? = some v ∧ v.definition.name = name

namespace ContextPlan

/-! ### What a generated context registers -/

variable (h : plan.Generates build options forest config catalog wired ordered context)

include h

theorem Generates.registered_eq : context.forest.registered forest.size = ordered := by
  rw [h.forest_eq]
  exact ClassForest.registered_distribute forest (by omega) plan.parent plan.className ordered

theorem Generates.perm_definitions :
    (ordered.map (·.definition)).Perm catalog.definitions := by
  rw [← Assembly.map_definition_of_forall₂ h.wires]
  exact (Schedule.perm_of_order h.order_eq).map _

theorem Generates.perm_names : (ordered.map (·.definition.name)).Perm catalog.names := by
  have perm := h.perm_definitions.map (·.name)
  rwa [List.map_map] at perm

/-- Wirings mention definitions of the catalog, all of which are in the list. The schedule puts what
is mentioned first, and no mentioned definition is outside the catalog. -/
theorem Generates.isGrounded : Schedule.IsGrounded ordered := by
  intro i w hi name mentions
  have known : name ∈ catalog.names := (h.wires_of_mem (List.mem_of_getElem? hi)).mem_names mentions
  have listed : name ∈ ordered.map (·.definition.name) := h.perm_names.mem_iff.2 known
  exact Schedule.respects_of_order h.order_eq i w hi name mentions listed

omit h

/-- The new initializer and its forks register, read one after the other, every definition of the
catalog once and nothing else, each of them behind all definitions that it mentions; their number
is reported. -/
theorem grounded_registered (h : plan.generate build options forest config = .ok context) :
    ∃ catalog, plan.catalog build options = .ok catalog ∧
      let registered := context.forest.registered forest.size
      (registered.map (·.definition.name)).Nodup ∧
      (registered.map (·.definition.name)).Perm catalog.names ∧
      Schedule.IsGrounded registered ∧
      context.definitionCount = registered.length := by
  obtain ⟨catalog, wired, ordered, generates⟩ := exists_generates h
  have perm := generates.perm_names
  refine ⟨catalog, generates.catalog_eq, ?_⟩
  rw [generates.registered_eq]
  refine ⟨perm.nodup_iff.2 catalog.nodup_names, perm, generates.isGrounded, ?_⟩
  rw [generates.definitionCount_eq, (Schedule.perm_of_order generates.order_eq).length_eq]

end ContextPlan

/-! ### A bakery with a counter and an annex -/

namespace Sample

/-- The factory method of the oven. It is called on the application, and is the one that is
replaced. -/
def ovenMethod : MethodDecl where
  name := "oven"
  returnType := .raw "lib.Oven"
  bean := some {}

/-- The factory method of the loaf, which needs the oven. The oven may have been replaced when the
loaf is wired. -/
def loafMethod : MethodDecl where
  name := "loaf"
  parameters := [{ type := .raw "lib.Oven" }]
  returnType := .raw "lib.Loaf"
  bean := some {}

/-- The application, which scans its own package. Both of its factory methods have an instance of it
to be called on. -/
def bakeryClass : TypeDecl where
  name := "app.Bakery"
  annotations := .singleton Annotation.application
  componentScan := some []
  methods := [ovenMethod, loafMethod]

/-- The field of the counter for the oven. It is injected once the counter is constructed. -/
def ovenField : FieldDecl where
  name := "oven"
  type := .raw "lib.Oven"
  visibility := .publicAccess
  inject := true

/-- The parameter of the counter for all loaves. It is filled with a list, so that it refers to no
definition by name. -/
def loavesParameter : Parameter where
  type := ⟨"java.util.List", [.raw "lib.Loaf"]⟩

/-- A component with all loaves and the oven. It is found by the scan and refers to two other
definitions. -/
def counterClass : TypeDecl where
  name := "app.Counter"
  annotations := ["org.springframework.stereotype.Service"]
  constructors := [{ parameters := [loavesParameter] }]
  fields := [ovenField]

/-- A factory method that is called on its configuration. It is dropped with the annex, which is
left out. -/
def cellarMethod : MethodDecl where
  name := "cellar"
  returnType := .raw "lib.Cellar"
  bean := some {}

/-- A configuration that replaces the oven without an instance of its own. Its static method is kept
when the annex is left out. -/
def annexClass : TypeDecl where
  name := "lib.Annex"
  methods := [cellarMethod, { ovenMethod with isStatic := true }]

/-- A build with the three classes. The annex is an auto-configuration. Overriding is allowed by a
property. -/
def bakeryBuild : Build where
  classPath := { types := [bakeryClass, counterClass, annexClass], nodup_names := by decide }
  environment := {
    sources := [⟨"application.properties", [(Capture.allowOverridingKey, "true")]⟩] }
  autoConfigurations := ["lib.Annex"]

/-- Two statements to a class, and no annex. Three or more definitions then need a fork. -/
def bakeryOptions : Options where
  excludeTypes := ["lib.Annex"]
  maxStatements := 2

/-- The context of the application, which belongs to the class before it. There is another class in
the forest, so that its initializer has a parent. -/
def bakeryPlan : ContextPlan where
  roots := ["app.Bakery"]
  environment := bakeryBuild.environment
  className := Build.initializerName
  parent := some 0

/-- A forest with one class. It stands for the classes that were generated earlier. -/
def bakeryForest : ClassForest :=
  mainForest.add { name := TestGroup.rootName, role := .contextLoaders [] }

/-- The oven of the annex. It has the name and the place of the oven that it replaces. -/
def ovenDefinition : Definition :=
  Capture.factoryDefinition "lib.Annex" "lib.Annex" { ovenMethod with isStatic := true } {}

/-- The loaf of the application. It is made by a call on the application. -/
def loafDefinition : Definition :=
  Capture.factoryDefinition "app.Bakery" "bakery" loafMethod {}

/-- The counter that the application finds. Its description tells that it was scanned. -/
def counterDefinition : Definition :=
  counterClass.definition "counter" "scanned component"

/-- The application itself. It is registered first, and is the factory bean of the loaf. -/
def bakeryDefinition : Definition :=
  bakeryClass.definition "bakery" "class"

/-- The cellar of the annex. Nothing mentions it. -/
def cellarDefinition : Definition :=
  Capture.factoryDefinition "lib.Annex" "lib.Annex" cellarMethod {}

/-- The definitions before the oven is replaced. Replacing the oven and leaving out the annex come
after it. -/
def openCatalog : Catalog where
  definitions := Definition.infrastructure ++ [bakeryDefinition, counterDefinition,
    Capture.factoryDefinition "app.Bakery" "bakery" ovenMethod {}, loafDefinition,
    annexClass.definition "lib.Annex" "class", cellarDefinition]
  nodup_names := by decide

/-- The definitions that code is generated for. They stand in the order in which their names were
first registered. -/
def bakeryCatalog : Catalog where
  definitions := [bakeryDefinition, counterDefinition, ovenDefinition, loafDefinition]
  nodup_names := by decide

/-- What the definitions are captured from. It is the class path with the environment and options of
the plan. -/
def bakeryCapture : Capture :=
  ⟨bakeryBuild.classPath, bakeryPlan.environment, bakeryOptions⟩

theorem load_bakeryCapture : bakeryCapture.load bakeryPlan.roots bakeryBuild.autoConfigurations =
    .ok (openCatalog.register ovenDefinition) := by
  have start : Catalog.ofList Definition.infrastructure = openCatalog.before 7 :=
    Catalog.eq_of_definitions_eq Catalog.definitions_ofList_infrastructure
  have bakery : bakeryCapture.step ⟨openCatalog.before 7, []⟩ (.root "app.Bakery") =
      .ok (⟨openCatalog.before 8, ["app.Bakery"]⟩,
        [.scanned "app.Bakery", .scanned "app.Counter",
          .factoryMethod "app.Bakery" "bakery" ovenMethod,
          .factoryMethod "app.Bakery" "bakery" loafMethod]) :=
    Capture.step_class_next (t := bakeryClass) (.root rfl) rfl List.not_mem_nil rfl
  have again : bakeryCapture.step ⟨openCatalog.before 8, ["app.Bakery"]⟩ (.scanned "app.Bakery") =
      .ok (⟨openCatalog.before 8, ["app.Bakery"]⟩, []) := rfl
  have counter :
      bakeryCapture.step ⟨openCatalog.before 8, ["app.Bakery"]⟩ (.scanned "app.Counter") =
        .ok (⟨openCatalog.before 9, ["app.Bakery", "app.Counter"]⟩, []) :=
    Capture.step_class_next (t := counterClass) (.component rfl rfl) rfl (by decide) rfl
  have oven : bakeryCapture.step ⟨openCatalog.before 9, ["app.Bakery", "app.Counter"]⟩
      (.factoryMethod "app.Bakery" "bakery" ovenMethod) =
        .ok (⟨openCatalog.before 10, ["app.Bakery", "app.Counter"]⟩, []) :=
    Capture.step_factoryMethod_next rfl rfl rfl
  have loaf : bakeryCapture.step ⟨openCatalog.before 10, ["app.Bakery", "app.Counter"]⟩
      (.factoryMethod "app.Bakery" "bakery" loafMethod) =
        .ok (⟨openCatalog.before 11, ["app.Bakery", "app.Counter"]⟩, []) :=
    Capture.step_factoryMethod_next rfl rfl rfl
  have annex : bakeryCapture.step ⟨openCatalog.before 11, ["app.Bakery", "app.Counter"]⟩
      (.autoConfiguration "lib.Annex") =
        .ok (⟨openCatalog.before 12, ["app.Bakery", "app.Counter", "lib.Annex"]⟩,
          [.factoryMethod "lib.Annex" "lib.Annex" cellarMethod,
            .factoryMethod "lib.Annex" "lib.Annex" { ovenMethod with isStatic := true }]) :=
    Capture.step_class_next (t := annexClass) (.autoConfiguration rfl) rfl (by decide) rfl
  have cellar : bakeryCapture.step
      ⟨openCatalog.before 12, ["app.Bakery", "app.Counter", "lib.Annex"]⟩
      (.factoryMethod "lib.Annex" "lib.Annex" cellarMethod) =
        .ok (⟨openCatalog.before 13, ["app.Bakery", "app.Counter", "lib.Annex"]⟩, []) :=
    Capture.step_factoryMethod_next rfl rfl rfl
  have finish : openCatalog.before 13 = openCatalog := Catalog.eq_of_definitions_eq rfl
  -- The oven has a definition already, which is replaced where it stands.
  have replaced : bakeryCapture.step ⟨openCatalog, ["app.Bakery", "app.Counter", "lib.Annex"]⟩
      (.factoryMethod "lib.Annex" "lib.Annex" { ovenMethod with isStatic := true }) =
        .ok (⟨openCatalog.register ovenDefinition, ["app.Bakery", "app.Counter", "lib.Annex"]⟩,
          []) := by
    rfl
  have tasks : Capture.startTasks bakeryPlan.roots bakeryBuild.autoConfigurations =
      [.root "app.Bakery", .autoConfiguration "lib.Annex"] := rfl
  simp only [Capture.load, tasks, start]
  rw [Capture.run_cons_of_ok bakery]
  simp only [List.cons_append, List.nil_append, Capture.run_cons_of_ok again,
    Capture.run_cons_of_ok counter, Capture.run_cons_of_ok oven, Capture.run_cons_of_ok loaf,
    Capture.run_cons_of_ok annex, Capture.run_cons_of_ok cellar, finish,
    Capture.run_cons_of_ok replaced, Capture.run]

theorem definitions_select_openCatalog :
    ((openCatalog.register ovenDefinition).select
      (Catalog.keepsByDefault bakeryOptions.excludeTypes)).definitions =
        bakeryCatalog.definitions := by
  have accepted : (openCatalog.register ovenDefinition).definitions.filter
      (Catalog.keepsByDefault bakeryOptions.excludeTypes) = bakeryCatalog.definitions ++
        [cellarDefinition] := rfl
  have rejected : (openCatalog.register ovenDefinition).rejectedNames
      (Catalog.keepsByDefault bakeryOptions.excludeTypes) =
        Definition.infrastructureTypes.map Prod.fst ++ ["lib.Annex"] := rfl
  have orphans : Catalog.orphans (Definition.infrastructureTypes.map Prod.fst ++ ["lib.Annex"])
      (bakeryCatalog.definitions ++ [cellarDefinition]) = [cellarDefinition] := rfl
  show Catalog.dropOrphans _ _ = _
  rw [accepted, rejected, Catalog.dropOrphans,
    dif_neg (by rw [orphans]; exact List.cons_ne_nil _ _)]
  exact Catalog.dropOrphans_of_orphans_eq_nil rfl

theorem catalog_bakeryPlan : bakeryPlan.catalog bakeryBuild bakeryOptions = .ok bakeryCatalog := by
  have load := load_bakeryCapture
  simp only [bakeryCapture] at load
  simp only [ContextPlan.catalog, load]
  exact congrArg Except.ok (Catalog.eq_of_definitions_eq definitions_select_openCatalog)

/-- What the definitions are wired with. The package of the code is that of the application. -/
def bakeryAssembly : Assembly :=
  bakeryPlan.assembly bakeryBuild bakeryForest bakeryCatalog

/-- The oven as a value. It refers to the definition by its name. -/
def ovenValue : Value :=
  .bean "oven" (.raw "lib.Oven")

/-- The wiring of the application. It has no dependencies. -/
def bakeryWiring : Wiring where
  definition := bakeryDefinition
  typeAccessible := true
  instantiation := .construction [] [] false
  injections := []

/-- The wiring of the counter. It comes last, since what it is passed has to be there before. -/
def counterWiring : Wiring where
  definition := counterDefinition
  typeAccessible := true
  instantiation := .construction [⟨"java.util.List", [.raw "lib.Loaf"]⟩]
    [.beans .list (.raw "lib.Loaf") ["loaf"]] false
  injections := [.field "app.Counter" "oven" (.raw "lib.Oven") ovenValue false]

/-- The wiring of the oven. It is the static method of the annex, and so refers to no factory bean.
-/
def ovenWiring : Wiring where
  definition := ovenDefinition
  typeAccessible := true
  instantiation := .factoryMethod "lib.Annex" none "oven" [] [] false
  injections := []

/-- The wiring of the loaf. It mentions its factory bean and its argument. -/
def loafWiring : Wiring where
  definition := loafDefinition
  typeAccessible := true
  instantiation :=
    .factoryMethod "app.Bakery" (some "bakery") "loaf" [.raw "lib.Oven"] [ovenValue] false
  injections := []

theorem value?_oven {self : String} {point : InjectionPoint}
    (found : bakeryAssembly.candidates self (.raw "lib.Oven") = [ovenDefinition])
    (type : point.type = .raw "lib.Oven") (unstated : point.expression = none)
    (unqualified : point.qualifier = none) :
    bakeryAssembly.value? self point = .ok (some ovenValue) := by
  rw [← type] at found
  rw [Assembly.value?_of_single found unstated (by rw [type]; rfl) (by rw [type]; rfl) unqualified,
    type]
  rfl

theorem wire_counter : (bakeryAssembly.wire counterDefinition).outcome = .ok counterWiring := by
  have loaves : bakeryAssembly.candidates "counter" (.raw "lib.Loaf") = [loafDefinition] := by cbv
  have oven : bakeryAssembly.candidates "counter" (.raw "lib.Oven") = [ovenDefinition] := by cbv
  have all : bakeryAssembly.value? "counter" loavesParameter.point =
      .ok (some (.beans .list (.raw "lib.Loaf") ["loaf"])) := by
    show bakeryAssembly.collection? "counter" _ .list (.raw "lib.Loaf") = _
    rw [Assembly.collection?, loaves]
    rfl
  have field : bakeryAssembly.injectField "counter" counterClass ovenField =
      .ok (some (.field "app.Counter" "oven" (.raw "lib.Oven") ovenValue false)) := by
    rw [Assembly.injectField, value?_oven oven rfl rfl rfl]
    rfl
  refine Assembly.wire_of_parts (d := counterDefinition) ?_
    (Assembly.injections_of_top (t := counterClass) rfl rfl rfl ?_)
  · exact Assembly.construct_of_single (t := counterClass) rfl
      (Assembly.arguments_of_single "constructor" rfl all)
  · show (Assembly.collect [bakeryAssembly.injectField "counter" counterClass ovenField]).outcome =
      _
    rw [field]
    rfl

theorem wire_loaf : (bakeryAssembly.wire loafDefinition).outcome = .ok loafWiring := by
  have oven : bakeryAssembly.candidates "loaf" (.raw "lib.Oven") = [ovenDefinition] := by cbv
  have chosen : bakeryAssembly.choose "loaf" "app.Bakery" "factory method"
      [.ofMethod "app.Bakery" loafMethod] = .ok (.ofMethod "app.Bakery" loafMethod, [ovenValue]) :=
    Assembly.choose_of_single
      (Assembly.arguments_of_single "factory method" rfl (value?_oven oven rfl rfl rfl))
  have declaring : bakeryAssembly.classPath.get? "app.Bakery" = some bakeryClass := rfl
  have overloads : Assembly.overloads (some bakeryClass) "app.Bakery" "loaf" =
      [.ofMethod "app.Bakery" loafMethod] := rfl
  have present : (some "bakery").filter (fun bean => !bakeryAssembly.catalog.contains bean) =
      none := rfl
  have name : loafDefinition.name = "loaf" := rfl
  refine Assembly.wire_of_parts (d := loafDefinition) ?_ rfl
  show bakeryAssembly.callFactory loafDefinition "app.Bakery" (some "bakery") "loaf" = _
  simp only [Assembly.callFactory, present, declaring, Assembly.chooseOverload, overloads, name,
    chosen]
  rfl

theorem wireAll_bakeryAssembly : bakeryAssembly.wireAll.outcome =
    .ok [bakeryWiring, counterWiring, ovenWiring, loafWiring] := by
  have bakery : (bakeryAssembly.wire bakeryDefinition).outcome = .ok bakeryWiring :=
    Assembly.wire_of_parts rfl (Assembly.injections_of_plain (t := bakeryClass) rfl rfl rfl rfl)
  have oven : (bakeryAssembly.wire ovenDefinition).outcome = .ok ovenWiring :=
    Assembly.wire_of_parts rfl rfl
  exact Assembly.wireEach_cons_of_ok bakery (Assembly.wireEach_cons_of_ok wire_counter
    (Assembly.wireEach_cons_of_ok oven (Assembly.wireEach_cons_of_ok wire_loaf rfl)))

theorem order_bakery : Schedule.order [bakeryWiring, counterWiring, ovenWiring, loafWiring] =
    .ok [bakeryWiring, ovenWiring, loafWiring, counterWiring] := by
  have needs : Schedule.needs [bakeryWiring, counterWiring, ovenWiring, loafWiring] =
      [[], [3, 2], [], [0, 2]] := by decide
  have final : (Schedule.finalState [[], [3, 2], [], [0, 2]]).scheduled = [0, 2, 3, 1] := by decide
  rw [Schedule.order, needs, final]
  rfl

/-- The context of the bakery: an initializer with the application and the oven, and a fork with the
loaf and the counter. -/
def bakeryContext : GeneratedContext where
  forest := bakeryPlan.grow bakeryOptions bakeryForest
    [bakeryWiring, ovenWiring, loafWiring, counterWiring]
  config := NativeConfig.addAll {} (bakeryPlan.requests bakeryForest
    [bakeryWiring, counterWiring, ovenWiring, loafWiring])
  definitionCount := 4

theorem classes_bakeryContext : bakeryContext.forest.classes.map
    (fun c => (c.parent, c.wirings.map (·.definition.name))) =
      [(none, []), (some 0, ["bakery", "oven"]), (some 1, ["loaf", "counter"])] := by
  have pieces : ClassForest.chunks 2 [bakeryWiring, ovenWiring, loafWiring, counterWiring] =
      [[bakeryWiring, ovenWiring], [loafWiring, counterWiring]] := by
    simp [ClassForest.chunks]
  show ((ClassForest.distribute bakeryForest 2 _ _ _).classes.map _) = _
  rw [ClassForest.distribute, pieces]
  rfl

theorem generate_bakeryPlan :
    bakeryPlan.generate bakeryBuild bakeryOptions bakeryForest {} = .ok bakeryContext :=
  ContextPlan.generate_of_wired catalog_bakeryPlan wireAll_bakeryAssembly order_bakery

end Sample

/-- The annex and its cellar are left out, but the oven is the one of the annex. The fork goes on
where the initializer ends, and the counter stands behind the loaf and the oven. -/
theorem ContextPlan.grounded_registered_bakeryPlan :
    Sample.bakeryPlan.generate Sample.bakeryBuild Sample.bakeryOptions Sample.bakeryForest {} =
        .ok Sample.bakeryContext ∧
      Sample.bakeryPlan.catalog Sample.bakeryBuild Sample.bakeryOptions =
        .ok Sample.bakeryCatalog ∧
      Sample.bakeryCatalog.names = ["bakery", "counter", "oven", "loaf"] ∧
      Sample.bakeryContext.forest.classes.map
          (fun c => (c.parent, c.wirings.map (·.definition.name))) =
        [(none, []), (some 0, ["bakery", "oven"]), (some 1, ["loaf", "counter"])] ∧
      ((Sample.bakeryContext.forest.registered 1).map (·.definition.name)).Perm
        Sample.bakeryCatalog.names ∧
      Schedule.IsGrounded (Sample.bakeryContext.forest.registered 1) ∧
      Sample.counterWiring.Mentions "loaf" ∧ Sample.counterWiring.Mentions "oven" ∧
      Sample.bakeryContext.definitionCount = (Sample.bakeryContext.forest.registered 1).length := by
  obtain ⟨catalog, hcatalog, -, perm, grounded, counted⟩ :=
    grounded_registered Sample.generate_bakeryPlan
  obtain rfl : Sample.bakeryCatalog = catalog :=
    Except.ok.inj (Sample.catalog_bakeryPlan.symm.trans hcatalog)
  have mentions (name : String) (listed : name ∈ Sample.counterWiring.references) :
      Sample.counterWiring.Mentions name := Wiring.mem_references.1 listed
  exact ⟨Sample.generate_bakeryPlan, hcatalog, rfl, Sample.classes_bakeryContext, perm, grounded,
    mentions "loaf" (by decide), mentions "oven" (by decide), counted⟩

end StaticWiring
