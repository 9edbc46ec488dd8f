import StaticWiring.Proofs.Capture.History

/-!
# The conditions of captured definitions

Conditions are evaluated while definitions are registered. Where no definition may replace another
one, the catalog of a capture tells what they were evaluated beside: the definitions that come
before. Beside these, all conditions of a definition hold.

## Main definitions

* `Capture.conditions?` — the conditions that a definition is registered under.
* `Capture.Admits` — conditions hold beside the definitions before a position.

## Main results

* `Capture.admits_of_load` — the conditions of every definition of an application hold beside the
  definitions before it.
-/

namespace StaticWiring

namespace Capture

variable {c : Capture} {catalog : Catalog}

/-- The conditions that a definition is registered under: those of its class, or those of the first
factory method of the name in the type that declares it. -/
def conditions? (c : Capture) (d : Definition) : Option (List Condition) :=
  match d.origin with
  | .construction => (c.classPath.get? d.type.name).map (·.conditions)
  | .factoryMethod type _ method =>
    (c.classPath.get? type).bind fun t =>
      (t.beanMethods.find? (·.name == method)).bind fun m => m.bean.map (·.conditions)
  | .supplier _ => none

/-- All conditions hold beside the definitions before a position. It spells out those conditions
that are about definitions, which have to be judged by the ones that come before. -/
structure Admits (c : Capture) (catalog : Catalog) (i : Nat) (conditions : List Condition) :
    Prop where
  /-- Every condition holds, whatever element it belongs to. -/
  holds : ∀ condition ∈ conditions, ∀ element,
    c.holds element (catalog.before i) condition = .ok true
  /-- Where a definition for a type must be missing, no candidate comes before. -/
  missing : ∀ type, .onMissingBean type ∈ conditions →
    ∀ e ∈ catalog.definitions.take i,
      Catalog.isCandidate c.classPath e.type (.raw type) = false
  /-- Where there must be a definition for a type, a candidate comes before. -/
  present : ∀ type, .onBean type ∈ conditions →
    ∃ e ∈ catalog.definitions.take i,
      Catalog.isCandidate c.classPath e.type (.raw type) = true

theorem Captures.exists_met {earlier : Catalog} {d : Definition} (h : c.Captures earlier d) :
    ∃ conditions, c.conditions? d = some conditions ∧
      ∃ element, c.allHold element earlier conditions = .ok true := by
  cases h with
  | @ofClass t name origin found new met =>
    refine ⟨t.conditions, ?_, t.name, met⟩
    show (c.classPath.get? t.name).map (·.conditions) = some t.conditions
    rw [found, Option.map_some]
  | @ofMethod t name m bean declares declared new met =>
    refine ⟨bean.conditions, ?_, t.name ++ "." ++ m.name, met⟩
    show ((c.classPath.get? t.name).bind fun t =>
      (t.beanMethods.find? (·.name == m.name)).bind fun m => m.bean.map (·.conditions)) =
        some bean.conditions
    rw [declares.found, Option.bind_some, declares.first, Option.bind_some, declared,
      Option.map_some]

theorem admits_of_allHold {element : String} {i : Nat} {conditions : List Condition}
    (met : c.allHold element (catalog.before i) conditions = .ok true) :
    c.Admits catalog i conditions := by
  have holds := allHold_eq_ok_true_iff.1 met
  refine ⟨fun condition member other => holds_eq_ok_of_element (holds condition member) other,
    ?_, ?_⟩
  · intro type member e earlier
    have none_found : (!(catalog.before i).hasCandidate c.classPath type) = true :=
      Except.ok.inj (holds _ member)
    rw [Bool.not_eq_true', Catalog.hasCandidate, List.any_eq_false] at none_found
    exact Bool.eq_false_iff.2 (none_found e earlier)
  · intro type member
    have found : (catalog.before i).hasCandidate c.classPath type = true :=
      Except.ok.inj (holds _ member)
    exact List.any_eq_true.1 found

end Capture

/-! ### Types without super types -/

/-- A type that extends nothing can be used as itself and as the root of the hierarchy only. It
spares samples the search through the hierarchy. -/
theorem ClassPath.isAssignable_of_flat {cp : ClassPath} {candidate required : String}
    (flat : ∀ t, cp.get? candidate = some t → t.directSupertypes = [])
    (other : candidate ≠ required) (below : required ≠ "java.lang.Object") :
    cp.isAssignable candidate required = false := by
  have reached : cp.reach [] [candidate] = [candidate] := by
    rw [reach, dif_neg (by simp)]
    split
    · rw [reach, List.nil_append]
    · next t found => rw [flat t found, List.append_nil, reach, List.nil_append]
  have supertypes : ∀ name ∈ cp.supertypes candidate,
      name = candidate ∨ name = "java.lang.Object" := by
    rw [ClassPath.supertypes, reached]
    grind
  rw [isAssignable, Bool.or_eq_false_iff]
  refine ⟨by simpa using other, ?_⟩
  rw [Bool.eq_false_iff]
  intro member
  obtain same | root := supertypes required (List.contains_iff_mem.1 member)
  · exact other same.symm
  · exact below root

/-! ### A workshop -/

namespace Sample

/-- A factory method without conditions. -/
def hammerMethod : MethodDecl where
  name := "hammer"
  returnType := .raw "lib.Hammer"
  bean := some {}

/-- A class that an application is started with. -/
def workshopClass : TypeDecl where
  name := "app.Workshop"
  beanName := some "workshop"
  methods := [hammerMethod]

/-- A factory method for the want of a hammer. -/
def spareHammerMethod : MethodDecl where
  name := "spareHammer"
  returnType := .raw "lib.Hammer"
  bean := some { conditions := [.onMissingBean "lib.Hammer"] }

/-- A static factory method for the use of a hammer. -/
def anvilMethod : MethodDecl where
  name := "anvil"
  returnType := .raw "lib.Anvil"
  isStatic := true
  bean := some { conditions := [.onBean "lib.Hammer", .onMissingBean "lib.Anvil"] }

/-- An auto-configuration that declares both. -/
def toolsClass : TypeDecl where
  name := "lib.Tools"
  methods := [spareHammerMethod, anvilMethod]

/-- An application that knows these two classes. -/
def workshopCapture : Capture where
  classPath := { types := [workshopClass, toolsClass], nodup_names := by decide }
  environment := {}
  options := {}

/-- The definitions of this application: the auto-configuration adds no second hammer. The
conditions of the anvil hold beside the hammer of the application. -/
def workshopCatalog : Catalog where
  definitions := Definition.infrastructure ++ [
    workshopClass.definition "workshop" "class",
    Capture.factoryDefinition "app.Workshop" "workshop" hammerMethod {},
    toolsClass.definition "lib.Tools" "class",
    Capture.factoryDefinition "lib.Tools" "lib.Tools" anvilMethod
      { conditions := [.onBean "lib.Hammer", .onMissingBean "lib.Anvil"] }]
  nodup_names := by decide

theorem hasCandidate_hammer :
    (workshopCatalog.before 10).hasCandidate workshopCapture.classPath "lib.Hammer" = true :=
  List.any_eq_true.2 ⟨Capture.factoryDefinition "app.Workshop" "workshop" hammerMethod {},
    List.mem_of_getElem? (i := 8) rfl, rfl⟩

theorem hasCandidate_anvil :
    (workshopCatalog.before 10).hasCandidate workshopCapture.classPath "lib.Anvil" = false := by
  refine List.any_eq_false.2 fun e earlier => ?_
  have other : e.type.name ≠ "lib.Anvil" := by
    revert e
    decide
  have flat : ∀ t ∈ workshopCapture.classPath.types, t.directSupertypes = [] := by decide
  have unusable : workshopCapture.classPath.isAssignable e.type.name "lib.Anvil" = false :=
    ClassPath.isAssignable_of_flat (fun t found => flat t (List.mem_of_find?_eq_some found)) other
      (by decide)
  show ¬ (workshopCapture.classPath.isAssignable e.type.name "lib.Anvil" && _) = true
  rw [unusable, Bool.false_and]
  exact Bool.false_ne_true

theorem load_workshopCapture :
    workshopCapture.load ["app.Workshop"] ["lib.Tools"] = .ok workshopCatalog := by
  have start : Catalog.ofList Definition.infrastructure = workshopCatalog.before 7 :=
    Catalog.eq_of_definitions_eq Catalog.definitions_ofList_infrastructure
  have workshop : workshopCapture.step ⟨workshopCatalog.before 7, []⟩ (.root "app.Workshop") =
      .ok (⟨workshopCatalog.before 8, ["app.Workshop"]⟩,
        [.factoryMethod "app.Workshop" "workshop" hammerMethod]) :=
    Capture.step_class_next (t := workshopClass) (.root rfl) rfl List.not_mem_nil rfl
  have hammer : workshopCapture.step ⟨workshopCatalog.before 8, ["app.Workshop"]⟩
      (.factoryMethod "app.Workshop" "workshop" hammerMethod) =
        .ok (⟨workshopCatalog.before 9, ["app.Workshop"]⟩, []) :=
    Capture.step_factoryMethod_next rfl rfl rfl
  have tools : workshopCapture.step ⟨workshopCatalog.before 9, ["app.Workshop"]⟩
      (.autoConfiguration "lib.Tools") =
        .ok (⟨workshopCatalog.before 10, ["app.Workshop", "lib.Tools"]⟩,
          [.factoryMethod "lib.Tools" "lib.Tools" spareHammerMethod,
            .factoryMethod "lib.Tools" "lib.Tools" anvilMethod]) :=
    Capture.step_class_next (t := toolsClass) (.autoConfiguration rfl) rfl (by decide) rfl
  have spareHammer : workshopCapture.step
      ⟨workshopCatalog.before 10, ["app.Workshop", "lib.Tools"]⟩
      (.factoryMethod "lib.Tools" "lib.Tools" spareHammerMethod) =
        .ok (⟨workshopCatalog.before 10, ["app.Workshop", "lib.Tools"]⟩, []) := by
    refine Capture.step_factoryMethod_of_unmet rfl ?_
    simp only [Capture.allHold, Capture.holds, hasCandidate_hammer, Bool.not_true]
  have anvil : workshopCapture.step ⟨workshopCatalog.before 10, ["app.Workshop", "lib.Tools"]⟩
      (.factoryMethod "lib.Tools" "lib.Tools" anvilMethod) =
        .ok (⟨workshopCatalog.before 11, ["app.Workshop", "lib.Tools"]⟩, []) := by
    refine Capture.step_factoryMethod_next rfl rfl ?_
    simp only [Capture.allHold, Capture.holds, hasCandidate_hammer, hasCandidate_anvil,
      Bool.not_false]
  have finish : workshopCatalog.before 11 = workshopCatalog := Catalog.eq_of_definitions_eq rfl
  simp only [Capture.load, Capture.startTasks, List.map_cons, List.map_nil, List.singleton_append,
    start]
  rw [Capture.run_cons_of_ok workshop, List.singleton_append, Capture.run_cons_of_ok hammer,
    List.nil_append, Capture.run_cons_of_ok tools, List.append_nil,
    Capture.run_cons_of_ok spareHammer, List.nil_append, Capture.run_cons_of_ok anvil,
    List.nil_append, Capture.run, finish]

end Sample

namespace Capture

variable {c : Capture} {catalog : Catalog}

/-! ### Conditions beside earlier definitions -/

/-- Where no definition may replace another one, the conditions of every definition of an
application hold beside the definitions before it. -/
theorem admits_of_load (strict : c.allowsOverriding = false)
    {roots autoConfigurations : List String}
    (loaded : c.load roots autoConfigurations = .ok catalog) {i : Nat} {d : Definition}
    (at_i : catalog.definitions[i]? = some d) (application : d.role = .application) :
    ∃ conditions, c.conditions? d = some conditions ∧ c.Admits catalog i conditions := by
  have captured := isCaptured_of_load strict loaded
  obtain ⟨conditions, attached, element, met⟩ :=
    (captured.captures_of_getElem? at_i application).exists_met
  exact ⟨conditions, attached, admits_of_allHold met⟩

theorem admits_of_load_workshopCapture :
    Sample.workshopCapture.allowsOverriding = false ∧
      Sample.workshopCapture.load ["app.Workshop"] ["lib.Tools"] = .ok Sample.workshopCatalog ∧
      ∃ d, Sample.workshopCatalog.definitions[10]? = some d ∧ d.role = .application ∧
        Sample.workshopCapture.conditions? d =
          some [.onBean "lib.Hammer", .onMissingBean "lib.Anvil"] ∧
        Sample.workshopCapture.Admits Sample.workshopCatalog 10
          [.onBean "lib.Hammer", .onMissingBean "lib.Anvil"] := by
  obtain ⟨conditions, attached, admits⟩ :=
    admits_of_load (i := 10) rfl Sample.load_workshopCapture rfl rfl
  have anvil : conditions = [.onBean "lib.Hammer", .onMissingBean "lib.Anvil"] :=
    (Option.some.inj attached).symm
  rw [anvil] at attached admits
  exact ⟨rfl, Sample.load_workshopCapture, _, rfl, rfl, attached, admits⟩

end Capture

end StaticWiring
