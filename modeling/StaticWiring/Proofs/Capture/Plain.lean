import StaticWiring.Build
import StaticWiring.Proofs.Capture.Steps

/-!
# Plain classes

A plain class has no conditions, scans no packages, imports nothing and declares no factory methods.
A context that is started with a plain class alone, without auto-configurations, has a single
definition once the container's own definitions are dropped: that of the class.

## Main definitions

* `TypeDecl.IsPlain` — a class leaves nothing to be done beside its own definition.
* `TypeDecl.rootDefinition` — the definition of a class that a context is started with.

## Main results

* `ContextPlan.definitions_of_plain` — the definitions of a context of a plain class.
-/

namespace StaticWiring

/-! ### Capturing a plain class -/

/-- The class leaves nothing to be done beside its own definition. It is the kind of class that
samples are made of. -/
structure TypeDecl.IsPlain (t : TypeDecl) : Prop where
  /-- There are no conditions. -/
  conditions : t.conditions = []
  /-- No package is scanned. -/
  componentScan : t.componentScan = none
  /-- Nothing is imported. -/
  imports : t.imports = []
  /-- There are no factory methods. -/
  beanMethods : t.beanMethods = []

/-- The definition of a class that a context is started with. It has the name that a component would
have, and says in its description that it is a class. -/
def TypeDecl.rootDefinition (t : TypeDecl) : Definition where
  name := t.componentName
  type := .raw t.name
  primary := t.primary
  description := some ("class " ++ t.name)

namespace Capture

variable {c : Capture}

theorem followUps_of_plain {t : TypeDecl} (plain : t.IsPlain) (definition : String) :
    c.followUps t definition = [] := by
  simp [followUps, scannedPackages, plain.componentScan, plain.imports, plain.beanMethods,
    firstOfEachName]

theorem step_root_of_plain {p : Progress} {type : String} {t : TypeDecl}
    (found : c.classPath.get? type = some t) (plain : t.IsPlain)
    (new : t.name ∉ p.processed) (fresh : t.componentName ∉ p.catalog.names) :
    c.step p (.root type) =
      .ok (⟨p.catalog.register t.rootDefinition, p.processed ++ [t.name]⟩, []) := by
  have met : c.allHold t.name p.catalog t.conditions = .ok true := by
    rw [plain.conditions, allHold]
  rw [step_of_reaches (.root found) new met (register_of_fresh fresh), followUps_of_plain plain]
  rfl

theorem load_of_plain {type : String} {t : TypeDecl} (found : c.classPath.get? type = some t)
    (plain : t.IsPlain) (fresh : t.componentName ∉ Definition.infrastructure.map (·.name)) :
    c.load [type] [] =
      .ok ((Catalog.ofList Definition.infrastructure).register t.rootDefinition) := by
  have free : t.componentName ∉ (Catalog.ofList Definition.infrastructure).names := by
    rwa [Catalog.names, Catalog.definitions_ofList_infrastructure]
  have done := step_root_of_plain (p := ⟨.ofList Definition.infrastructure, []⟩) found plain
    List.not_mem_nil free
  simp only [load, startTasks, List.map_cons, List.map_nil, List.append_nil]
  rw [run_cons_of_ok done, List.append_nil, run]

end Capture

/-! ### The context of a plain class -/

theorem Catalog.definitions_select_of_fresh {d : Definition} {excluded : List String}
    (fresh : d.name ∉ Definition.infrastructure.map (·.name)) (alone : d.factoryBean? = none)
    (kept : d.userType ∉ excluded) :
    (((ofList Definition.infrastructure).register d).select
      (keepsByDefault excluded)).definitions = [d] := by
  have free : d.name ∉ (ofList Definition.infrastructure).names := by
    rwa [names, definitions_ofList_infrastructure]
  have definitions : ((ofList Definition.infrastructure).register d).definitions =
      Definition.infrastructure ++ [d] := by
    rw [definitions_register_of_fresh free, definitions_ofList_infrastructure]
  have keeps : keepsByDefault excluded d = true := by
    have unlisted : d.name ∉ Definition.infrastructureTypes.map Prod.fst := by
      simpa [Definition.infrastructure] using fresh
    simp [keepsByDefault, unlisted, kept]
  have filtered : (Definition.infrastructure ++ [d]).filter (keepsByDefault excluded) = [d] := by
    rw [List.filter_append, List.filter_eq_nil_iff.2, List.filter_cons_of_pos keeps]
    · rfl
    · intro e he
      rw [keepsByDefault_of_mem_infrastructure excluded he]
      exact Bool.false_ne_true
  show dropOrphans _ (List.filter _ _) = [d]
  rw [definitions, filtered]
  exact dropOrphans_of_orphans_eq_nil (by simp [orphans, alone])

/-- A context that is started with a plain class has the definition of the class, unless its type is
excluded. -/
theorem ContextPlan.definitions_of_plain {plan : ContextPlan} {build : Build} {options : Options}
    {t : TypeDecl} (roots : plan.roots = [t.name]) (auto : build.autoConfigurations = [])
    (found : build.classPath.get? t.name = some t) (plain : t.IsPlain)
    (fresh : t.componentName ∉ Definition.infrastructure.map (·.name))
    (kept : t.rootDefinition.userType ∉ options.excludeTypes) :
    ∃ catalog, plan.catalog build options = .ok catalog ∧
      catalog.definitions = [t.rootDefinition] := by
  refine ⟨_, ?_, Catalog.definitions_select_of_fresh fresh rfl kept⟩
  rw [ContextPlan.catalog, roots, auto]
  simp only [Capture.load_of_plain (c := ⟨build.classPath, plan.environment, options⟩) found plain
    fresh]

end StaticWiring
