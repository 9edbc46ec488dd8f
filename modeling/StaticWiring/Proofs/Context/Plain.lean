import StaticWiring.Proofs.Capture.Plain
import StaticWiring.Proofs.Context.Generation
import StaticWiring.Proofs.Wiring.Plain

/-!
# The context of a plain class

The context of a plain class has the registration of the class and no other one. As it is the only
definition, there is nothing that it could be injected with.

## Main results

* `ContextPlan.generate_of_plain` — the context of a plain class.
* `Sample.generate_constructed` — the context of a class with a constructor of one parameter.
-/

namespace StaticWiring

namespace ContextPlan

variable {plan : ContextPlan} {build : Build} {options : Options} {forest : ClassForest}
  {config : NativeConfig} {t : TypeDecl} {w : Wiring}

/-- The initializer of a context that holds all wirings itself. It needs no forks, since the wirings
are so few. -/
def initializer (plan : ContextPlan) (ws : List Wiring) : GeneratedClass where
  name := plan.className
  role := .initializer
  parent := plan.parent
  wirings := ws

theorem grow_singleton (plan : ContextPlan) (options : Options) (forest : ClassForest)
    (w : Wiring) : plan.grow options forest [w] = forest.add (plan.initializer [w]) := by
  rw [grow, ClassForest.distribute, ClassForest.chunks_singleton (by omega)]
  rfl

/-- The context of a plain class whose definition is wired by `w` without the help of any other
definition. -/
theorem generate_of_plain (roots : plan.roots = [t.name]) (auto : build.autoConfigurations = [])
    (found : build.classPath.get? t.name = some t) (plain : t.IsPlain)
    (fresh : t.componentName ∉ Definition.infrastructure.map (·.name))
    (kept : t.rootDefinition.userType ∉ options.excludeTypes)
    (wires : ∀ catalog, catalog.definitions = [t.rootDefinition] →
      ((plan.assembly build forest catalog).wire t.rootDefinition).outcome = .ok w)
    (alone : w.references = []) :
    plan.generate build options forest config =
      .ok ⟨forest.add (plan.initializer [w]), config.addAll (plan.requests forest [w]), 1⟩ := by
  obtain ⟨catalog, hcatalog, definitions⟩ :=
    definitions_of_plain roots auto found plain fresh kept
  rw [← grow_singleton plan options forest w]
  exact generate_of_wired hcatalog
    (Assembly.wireAll_of_alone definitions (wires catalog definitions))
    (Schedule.order_singleton alone)

end ContextPlan

/-! ### A single class -/

namespace Sample

/-- A public class without members. Its name as a definition is stated, so that it need not be
computed. -/
def mainClass : TypeDecl where
  name := "app.Main"
  beanName := some "main"

/-- The context that is started with this class. There are no properties and no profiles. -/
def mainPlan : ContextPlan where
  roots := ["app.Main"]
  environment := {}
  className := Build.initializerName

/-- The wiring of this class. It calls the constructor without arguments, and nothing is injected.
-/
def mainWiring : Wiring where
  definition := mainClass.rootDefinition
  typeAccessible := true
  instantiation := .construction [] [] false
  injections := []

/-- The package of this class without generated classes. It is what runs of the samples start from.
-/
def mainForest : ClassForest where
  package := "app"

/-- The context of a single wiring. It has a single class, which registers the wiring. -/
def contextOf (w : Wiring) : GeneratedContext where
  forest := mainForest.add (mainPlan.initializer [w])
  config := NativeConfig.addAll {} (mainPlan.requests mainForest [w])
  definitionCount := 1

/-- The class with a constructor that has one parameter. The samples about arguments differ in this
parameter. -/
def constructedClass (p : Parameter) : TypeDecl where
  name := "app.Main"
  beanName := some "main"
  constructors := [{ parameters := [p] }]

/-- A build that knows this class and one more type. The other type is the one that the samples look
at. -/
def constructedBuild (p : Parameter) (other : TypeDecl)
    (distinct : (["app.Main", other.name] : List String).Nodup) : Build where
  classPath := { types := [constructedClass p, other], nodup_names := distinct }
  environment := {}

/-- The wiring of this class with the argument of its constructor. What is passed is the value that
the parameter is given. -/
def constructedWiring (p : Parameter) (argument : Value) : Wiring where
  definition := (constructedClass p).rootDefinition
  typeAccessible := true
  instantiation := .construction [p.type] [argument] false
  injections := []

/-- The context of this class if its parameter has a value and is no other definition. Whatever the
value is, one class is generated, which registers the class with it. -/
theorem generate_constructed {p : Parameter} {other : TypeDecl}
    {distinct : (["app.Main", other.name] : List String).Nodup} {value : Option Value}
    (h : ∀ catalog, catalog.definitions = [(constructedClass p).rootDefinition] →
      (mainPlan.assembly (constructedBuild p other distinct) mainForest catalog).value?
        (constructedClass p).rootDefinition.name p.point = .ok value)
    (alone : (constructedWiring p (value.getD .null)).references = []) :
    mainPlan.generate (constructedBuild p other distinct) {} mainForest {} =
      .ok (contextOf (constructedWiring p (value.getD .null))) := by
  refine ContextPlan.generate_of_plain (t := constructedClass p) rfl rfl rfl ⟨rfl, rfl, rfl, rfl⟩
    ?_ ?_ (fun catalog definitions => ?_) alone
  · exact show "main" ∉ Definition.infrastructure.map (·.name) by decide
  · exact List.not_mem_nil
  · refine Assembly.wire_of_parts ?_
      (Assembly.injections_of_plain (t := constructedClass p) rfl rfl rfl rfl)
    have arguments := Assembly.arguments_of_single "constructor"
      (e := .ofConstructor "app.Main" { parameters := [p] }) rfl (h catalog definitions)
    exact Assembly.construct_of_single (t := constructedClass p) rfl arguments

end Sample

end StaticWiring
