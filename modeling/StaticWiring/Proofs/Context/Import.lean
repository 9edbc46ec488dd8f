import StaticWiring.Proofs.Context.Plain
import StaticWiring.Proofs.Java.Scope
import StaticWiring.Proofs.Registration.Mentions

/-!
# Imports of a context

A file can only be compiled if the types that it imports can be named in its package. The code of a
registration tests this for most of the types that it mentions. The imports that can go wrong come
from the types that it mentions in any case, from the framework, and from nested types and arrays,
whose own name is tested while their outermost type is imported.

## Main results

* `Generates.canName_or_exposes` — the types that the classes of a context mention.
* `ContextPlan.imports_accessible_iff` — when all imports of a context can be named.
* `Sample.not_imports_accessible_hiddenEnum` — not with a constant of a hidden enum.
-/

namespace StaticWiring

open Java

/-! ### What the classes of a context mention -/

/-- A type that a class mentions without a test that its outermost type can be named. These are the
types of the framework, those that a registration mentions in any case, and nested types, which are
imported with their outermost type. -/
def GeneratedClass.Exposes (c : GeneratedClass) (name : String) : Prop :=
  name ∈ Framework.types ∨ (∃ w ∈ c.wirings, name ∈ w.untestedTypes) ∨ (spelling name).outer ≠ name

theorem ClassForest.mem_mentioned {f : ClassForest} {site : Site} {c : GeneratedClass}
    {name : String} (role : c.role = .initializer ∨ c.role = .fork)
    (h : name ∈ f.mentioned site c) :
    name ∈ Framework.types ∨ ∃ w ∈ c.wirings, name ∈ (site.registration w).mentioned := by
  have registrations (h : name ∈ c.wirings.flatMap fun w => (site.registration w).mentioned) :
      ∃ w ∈ c.wirings, name ∈ (site.registration w).mentioned := List.mem_flatMap.1 h
  rcases role with role | role
  · simp only [mentioned, role] at h
    rcases List.mem_append.1 h with h | h
    · refine .inl ?_
      rcases List.mem_pair.1 h with rfl | rfl <;> decide
    · exact .inr (registrations h)
  · simp only [mentioned, role] at h
    rcases List.mem_cons.1 h with rfl | h
    · exact .inl (by decide)
    · exact .inr (registrations h)

namespace ContextPlan

variable {plan : ContextPlan} {build : Build} {options : Options} {forest : ClassForest}
  {config : NativeConfig} {context : GeneratedContext} {catalog : Catalog}
  {wired ordered : List Wiring}

/-- Whatever a class of a context mentions can be named, unless it is mentioned in any case. Tests
are made before the code is written, and the outcome is part of the wiring. -/
theorem Generates.canName_or_exposes
    (h : plan.Generates build options forest config catalog wired ordered context)
    {c : GeneratedClass} (hc : c ∈ context.added forest) {name : String}
    (mentioned : name ∈ context.forest.mentioned ⟨build.classPath, forest.package⟩ c) :
    (⟨build.classPath, forest.package⟩ : Site).canName name = true ∨ c.Exposes name := by
  rcases ClassForest.mem_mentioned (h.role_of_mem_added hc) mentioned with framework | ⟨w, hw, own⟩
  · exact .inr (.inl framework)
  · rcases (h.wires_of_mem_added hc hw).allows_or_untested own with (named | framework) | untested
    · exact .inl named
    · exact .inr (.inl framework)
    · exact .inr (.inr (.inl ⟨w, hw, untested⟩))

/-- All imports of a context can be named in its package exactly if those can that come from types
which are mentioned without such a test. -/
theorem imports_accessible_iff (h : plan.generate build options forest config = .ok context) :
    let site : Site := ⟨build.classPath, forest.package⟩
    (∀ c ∈ context.added forest, ∀ type ∈ (context.forest.scope site c).imports,
        site.canName type = true) ↔
      ∀ c ∈ context.added forest, ∀ name ∈ context.forest.mentioned site c, c.Exposes name →
        (spelling name).outer ∈ (context.forest.scope site c).imports →
          site.canName (spelling name).outer = true := by
  intro site
  obtain ⟨catalog, wired, ordered, generates⟩ := exists_generates h
  constructor
  · intro all c hc name _ _ imported
    exact all c hc _ imported
  · intro exposed c hc type imported
    obtain ⟨name, mentioned, rfl⟩ := Scope.exists_of_mem_imports imported
    by_cases exposes : c.Exposes name
    · exact exposed c hc name mentioned exposes imported
    · have outermost : (spelling name).outer = name := by
        by_contra nested
        exact exposes (.inr (.inr nested))
      rw [outermost]
      exact (generates.canName_or_exposes hc mentioned).resolve_right exposes

end ContextPlan

/-! ### A constant of an enum -/

namespace Sample

/-- An enum of another package. Whether the application can name it is left open. -/
def levelEnum (visibility : Visibility) : TypeDecl where
  name := "lib.Level"
  kind := .enumKind
  visibility := visibility

/-- A parameter that is passed a constant of this enum. The value is a text, which is read as the
name of the constant. -/
def enumParameter : Parameter where
  name := "level"
  type := .raw "lib.Level"
  value := some "HIGH"

/-- A build with a class whose constructor has this parameter. The two samples differ in the
visibility of the enum only. -/
def levelBuild (visibility : Visibility) : Build :=
  constructedBuild enumParameter (levelEnum visibility) (by simp [levelEnum])

/-- The wiring of the class. It mentions the enum whether that can be named or not. -/
def enumWiring : Wiring :=
  constructedWiring enumParameter (.literal (.enumConstant "lib.Level" "HIGH"))

theorem generate_levelBuild (visibility : Visibility) :
    mainPlan.generate (levelBuild visibility) {} mainForest {} = .ok (contextOf enumWiring) := by
  have value (catalog : Catalog) :
      (mainPlan.assembly (levelBuild visibility) mainForest catalog).value?
        (constructedClass enumParameter).rootDefinition.name enumParameter.point =
          .ok (some (.literal (.enumConstant "lib.Level" "HIGH"))) := by
    have text : mainPlan.environment.resolve "HIGH" = .ok "HIGH" :=
      Environment.resolve_of_findOpen_eq_none mainPlan.environment rfl
    have denotes : Literal.ofText? (levelBuild visibility).classPath "lib.Level" "HIGH" =
        some (.enumConstant "lib.Level" "HIGH") := by
      cases visibility <;> decide +kernel
    simp only [Assembly.value?, Assembly.literal?, ContextPlan.assembly, enumParameter, text,
      TypeRef.raw, denotes, Parameter.point]
  exact generate_constructed (fun catalog _ => value catalog) (by decide)

theorem canName_levelBuild (type : String) :
    (⟨(levelBuild .publicAccess).classPath, "app"⟩ : Site).canName type = true := by
  unfold Site.canName
  cases found : (levelBuild .publicAccess).classPath.get? type with
  | none => rfl
  | some t =>
    obtain rfl | rfl : t = constructedClass enumParameter ∨ t = levelEnum .publicAccess := by
      simpa [levelBuild, constructedBuild] using List.mem_of_find?_eq_some found
    · rfl
    · rfl

end Sample

/-- The imported enum is described and can be named, as is everything else that is imported. The
condition of the theorem is checked for the only type that is mentioned in any case. -/
theorem ContextPlan.imports_accessible_publicEnum :
    let build := Sample.levelBuild .publicAccess
    ∃ context, Sample.mainPlan.generate build {} Sample.mainForest {} = .ok context ∧
      let site : Site := ⟨build.classPath, Sample.mainForest.package⟩
      (∀ c ∈ context.added Sample.mainForest, ∀ type ∈ (context.forest.scope site c).imports,
        site.canName type = true) ∧
      ∃ c ∈ context.added Sample.mainForest, "lib.Level" ∈ (context.forest.scope site c).imports ∧
        site.classPath.get? "lib.Level" = some (Sample.levelEnum .publicAccess) :=
  have generates := Sample.generate_levelBuild .publicAccess
  ⟨Sample.contextOf Sample.enumWiring, generates,
    (imports_accessible_iff generates).2 fun _ _ _ _ _ _ => Sample.canName_levelBuild _,
    Sample.mainPlan.initializer [Sample.enumWiring], List.mem_singleton_self _, by decide +kernel,
    rfl⟩

/-- A hidden enum is imported as well. The generated code could therefore not be compiled. -/
theorem Sample.not_imports_accessible_hiddenEnum :
    let build := levelBuild .packageAccess
    ∃ context, mainPlan.generate build {} mainForest {} = .ok context ∧
      ∃ c ∈ context.added mainForest,
        "lib.Level" ∈ (context.forest.scope ⟨build.classPath, "app"⟩ c).imports ∧
          (⟨build.classPath, "app"⟩ : Site).canName "lib.Level" = false :=
  ⟨contextOf enumWiring, generate_levelBuild .packageAccess, mainPlan.initializer [enumWiring],
    List.mem_singleton_self _, by decide +kernel, by decide +kernel⟩

end StaticWiring
