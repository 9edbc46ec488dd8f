import StaticWiring.Proofs.Context.Sources
import StaticWiring.Proofs.TestGroup.Grouping

/-!
# The map of test classes

The contexts of tests are generated one after the other into one forest. What is generated for a
context stays where it is while later contexts add their initializers and forks behind it; only the
documentation of its initializer is added. So the position that a test class was mapped to when its
context was generated leads to this context in the end.

## Main definitions

* `Build.ProcessedFor` — a position is that of the initializer that was generated for a test class.
* `Build.LoadsTests` — the first class maps every test class to its initializer.

## Main results

* `Build.keepsLoading_addTestContext` — what one more context keeps.
* `Build.tests_grouped_and_loaded` — the groups of test classes and their map.
-/

namespace StaticWiring

namespace Build

variable {build built : Build} {files : FileTree} {options : Options} {f grown : ClassForest}
  {test : String} {i : Nat}

/-! ### The context of a test class -/

/-- The classes that a context is started with: those that it asks for, or the application class.
The application class is asked for only where no classes are stated. -/
inductive RootsOf (build : Build) (asked : TestContext) : List String → Prop
  /-- The stated classes. -/
  | stated (nonempty : asked.classes ≠ []) : RootsOf build asked asked.classes
  /-- The application class, if none are stated. -/
  | application {name : String} (none : asked.classes = [])
    (found : build.applicationClass = .ok name) : RootsOf build asked [name]

theorem rootsOf_of_testRoots {g : TestGroup} {roots : List String}
    (h : build.testRoots g = .ok roots) : build.RootsOf g.context roots := by
  rw [testRoots] at h
  split at h
  · next none =>
    cases found : build.applicationClass with
    | error cause =>
      rw [found] at h
      cases h
    | ok name =>
      rw [found] at h
      cases h
      exact .application (List.isEmpty_iff.1 none) found
  · next some =>
    cases h
    exact .stated (mt List.isEmpty_iff.2 some)

theorem withInlined_of_testEnvironment {g : TestGroup} {environment : Environment}
    (h : build.testEnvironment files g = .ok environment) :
    build.environment.withInlined files g.context.properties g.context.activeProfiles =
      .ok environment := by
  rw [testEnvironment] at h
  split at h
  · next found =>
    cases h
    exact found
  · cases h

/-- The position is that of the initializer that was added when the context was generated that the
test class asks for: with its own classes, properties and profiles. What was generated is still in
the forest. -/
inductive ProcessedFor (build : Build) (files : FileTree) (options : Options) (f : ClassForest)
    (test : String) : Nat → Prop
  | intro {t : TypeDecl} {asked : TestContext} {plan : ContextPlan} {before : ClassForest}
    {config : NativeConfig} {context : GeneratedContext} {c : GeneratedClass}
    (declared : t ∈ build.classPath.types ∧ t.name = test ∧ t.testContext = some asked)
    (roots : build.RootsOf asked plan.roots)
    (environment : build.environment.withInlined files asked.properties asked.activeProfiles =
      .ok plan.environment)
    (generated : plan.generate build options before config = .ok context)
    (stays : f.Continues context.forest)
    (here : f.get? before.size = some c)
    (initializer : c.role = .initializer ∧ c.name = plan.className ∧ c.parent = some 0) :
    ProcessedFor build files options f test before.size

/-- What was generated for a test class stays in a larger forest. The initializer does not stand at
the first position, which is the only one that may change. -/
theorem ProcessedFor.continues (h : build.ProcessedFor files options f test i) (positive : 0 < i)
    (stays : grown.Continues f) : build.ProcessedFor files options grown test i := by
  obtain ⟨declared, roots, environment, generated, kept, here, initializer⟩ := h
  obtain ⟨doc, here⟩ := stays.get?_of_pos _ _ positive here
  exact .intro declared roots environment generated (stays.trans kept) here initializer

/-! ### One more context -/

/-- What holds while contexts are added. It is the invariant of the loop over the groups of test
classes. -/
structure KeepsLoading (build : Build) (files : FileTree) (options : Options)
    (s : TestContexts) : Prop where
  /-- The map, which is still empty, is the first class. -/
  root : s.forest.get? 0 = some rootClass
  /-- The positions of the test classes so far are those of their initializers. -/
  processed : ∀ test i, (test, i) ∈ s.entries →
    0 < i ∧ build.ProcessedFor files options s.forest test i

variable {s next : TestContexts}

theorem KeepsLoading.size_pos (h : build.KeepsLoading files options s) : 0 < s.forest.size :=
  (List.getElem?_eq_some_iff.1 h.root).1

theorem keepsLoading_start (build : Build) (files : FileTree) (options : Options) :
    build.KeepsLoading files options (build.testsStart options) where
  root := rfl
  processed _ _ hi := absurd hi List.not_mem_nil

theorem keepsLoading_addTestContext {g : TestGroup} {className : String}
    (hg : g ∈ TestGroup.ofTypes build.classPath.types) (h : build.KeepsLoading files options s)
    (added : build.addTestContext files options s g className = .ok next) :
    build.KeepsLoading files options next := by
  obtain ⟨plan, context, hplan, generated, hforest, hentries⟩ := addTestContext_eq_ok added
  obtain ⟨catalog, wired, ordered, generates⟩ := ContextPlan.exists_generates generated
  have documented : next.forest.Continues context.forest := by
    rw [hforest]
    exact ClassForest.continues_modify_doc _ _ _
  have grown : context.forest.Continues s.forest := by
    rw [generates.forest_eq]
    exact ClassForest.continues_distribute _ _ _ _ _
  refine ⟨?_, fun test i hi => ?_⟩
  · -- The documentation goes to the new initializer, which is not the first class.
    rw [hforest, ClassForest.get?_modify, generates.forest_eq, ContextPlan.grow,
      ClassForest.get?_distribute_of_lt h.size_pos, h.root, Option.map_some,
      if_neg (Nat.ne_of_gt h.size_pos)]
  · rw [hentries] at hi
    rcases List.mem_append.1 hi with hi | hi
    · obtain ⟨positive, processed⟩ := h.processed test i hi
      exact ⟨positive, processed.continues positive (documented.trans grown)⟩
    · -- The class is one of the group, and the position is that of the new initializer.
      obtain ⟨test', htest, same⟩ := List.mem_map.1 hi
      obtain ⟨rfl, rfl⟩ := Prod.mk.inj same
      obtain ⟨t, ht, name, asks⟩ := TestGroup.declared_of_mem_ofTypes hg htest
      obtain ⟨roots, environment, hroots, henvironment, rfl⟩ := exists_parts_of_testPlan hplan
      obtain ⟨c, hc, named, role, parent⟩ := generates.exists_initializer
      obtain ⟨doc, here⟩ := documented.get?_of_pos _ _ h.size_pos hc
      exact ⟨h.size_pos, .intro ⟨ht, name, asks⟩ (rootsOf_of_testRoots hroots)
        (withInlined_of_testEnvironment henvironment) generated documented here
        ⟨role, named, parent⟩⟩

/-! ### All contexts -/

/-- The first class of a forest maps every test class to the initializer of its context. Positions
of initializers, and not names, are what it maps to. -/
structure LoadsTests (build : Build) (files : FileTree) (options : Options) (f : ClassForest)
    (entries : List (String × Nat)) : Prop where
  /-- The map is the first class. -/
  root : f.get? 0 = some { name := TestGroup.rootName, role := .contextLoaders entries }
  /-- No test class is mapped twice. -/
  nodup : (entries.map Prod.fst).Nodup
  /-- All test classes are mapped, and no others. -/
  mem_iff : ∀ test, test ∈ entries.map Prod.fst ↔
    ∃ t ∈ build.classPath.types, t.name = test ∧ t.testContext.isSome
  /-- They are mapped to the initializers of their contexts. -/
  processed : ∀ test i, (test, i) ∈ entries → build.ProcessedFor files options f test i

/-- What every context keeps holds once all of them are added. The induction is over the groups,
each of which adds one context. -/
theorem keepsLoading_of_foldlM
    (h : (TestGroup.named 0 (TestGroup.ofTypes build.classPath.types)).foldlM
      (fun s (g, className) => build.addTestContext files options s g className)
      (build.testsStart options) = .ok s) : build.KeepsLoading files options s := by
  refine Lists.foldlM_keeps (P := fun _ => build.KeepsLoading files options)
    (fun entry hentry _ s next kept added => ?_) (keepsLoading_start build files options) h
  exact keepsLoading_addTestContext (TestGroup.fst_mem_of_mem_named hentry) kept added

/-- Once the map is filled, it leads to all contexts. Filling the map changes the first class only,
and no initializer stands there. -/
theorem loadsTests_of_foldlM
    (h : (TestGroup.named 0 (TestGroup.ofTypes build.classPath.types)).foldlM
      (fun s (g, className) => build.addTestContext files options s g className)
      (build.testsStart options) = .ok s) :
    build.LoadsTests files options s.filled s.entries := by
  have kept := keepsLoading_of_foldlM h
  have mapped : s.entries.map Prod.fst =
      (TestGroup.ofTypes build.classPath.types).flatMap (·.testClasses) := by
    rw [(validTests_of_foldlM h).mapped, ← List.flatMap_map, TestGroup.map_fst_named]
  refine ⟨?_, ?_, fun test => ?_, fun test i hi => ?_⟩
  · rw [TestContexts.filled, ClassForest.get?_modify, kept.root]
    rfl
  · rw [mapped]
    exact TestGroup.nodup_flatMap_testClasses build.classPath.nodup_names
  · rw [mapped, List.mem_flatMap]
    constructor
    · rintro ⟨g, hg, htest⟩
      obtain ⟨t, ht, name, asks⟩ := TestGroup.declared_of_mem_ofTypes hg htest
      exact ⟨t, ht, name, Option.isSome_of_eq_some asks⟩
    · rintro ⟨t, ht, rfl, asks⟩
      obtain ⟨context, asks⟩ := Option.isSome_iff_exists.1 asks
      exact TestGroup.exists_mem_ofTypes ht asks
  · obtain ⟨positive, processed⟩ := kept.processed test i hi
    exact processed.continues positive (ClassForest.continues_modify_zero _ _)

/-- The test classes are grouped by what they ask for, whatever the order of the types. If their
contexts can be generated, then the first class maps each of them to the initializer of the context
that it asks for; without test classes, nothing is generated. -/
theorem tests_grouped_and_loaded (build : Build) (files : FileTree) (options : Options) :
    (TestGroup.IsGrouping build.classPath.types (TestGroup.ofTypes build.classPath.types) ∧
      TestGroup.inTurn (TestGroup.sorted (TestGroup.testClassesOf build.classPath.types)) =
        TestGroup.ofTypes build.classPath.types ∧
      ∀ cp : ClassPath, build.classPath.types.Perm cp.types →
        TestGroup.ofTypes cp.types = TestGroup.ofTypes build.classPath.types) ∧
    ∀ built, build.contribute files options .testContexts = .ok built →
      (∀ t ∈ build.classPath.types, t.testContext = none) ∧ built = build ∨
        ∃ f entries config count, built = { build with config }.addClasses f count ∧
          build.LoadsTests files options f entries := by
  have nodup := build.classPath.nodup_names
  refine ⟨⟨TestGroup.isGrouping_ofTypes nodup, TestGroup.inTurn_eq_ofSorted _, fun cp perm =>
    (TestGroup.ofTypes_eq_of_perm perm nodup).symm⟩, fun built h => ?_⟩
  rcases addTestContexts_cases h with ⟨none, rfl⟩ | ⟨s, added, rfl⟩
  · refine .inl ⟨fun t ht => Option.eq_none_iff_forall_ne_some.2 fun context asks => ?_, rfl⟩
    obtain ⟨g, hg, -⟩ := TestGroup.exists_mem_ofTypes ht asks
    rw [none] at hg
    cases hg
  · exact .inr ⟨_, _, _, _, rfl, loadsTests_of_foldlM added⟩

/-- The code that is built for two test classes has the classes of a forest whose map leads to their
contexts, the second test class among them. -/
theorem tests_grouped_and_loaded_differentContexts :
    let build := Sample.testBuild "a.BarTests" "a.FooTests" (by decide)
    ∃ built, build.contribute {} {} .testContexts = .ok built ∧
      ∃ f entries config count, built = { build with config }.addClasses f count ∧
        build.LoadsTests {} {} f entries ∧ ∃ i, ("a.FooTests", i) ∈ entries := by
  intro build
  obtain ⟨built, h⟩ := Sample.exists_addTestContexts_testBuild (by decide) {}
    (show "a.BarTests" < "a.FooTests" by decide)
  refine ⟨built, h, ?_⟩
  rcases (tests_grouped_and_loaded _ {} {}).2 built h with
    ⟨none, -⟩ | ⟨f, entries, config, count, rfl, loads⟩
  · cases none _ (List.mem_cons_of_mem _ List.mem_cons_self)
  · have mapped := (loads.mem_iff "a.FooTests").2
      ⟨_, List.mem_cons_of_mem _ (List.mem_cons_of_mem _ List.mem_cons_self), rfl, rfl⟩
    obtain ⟨⟨test, i⟩, hi, rfl⟩ := List.mem_map.1 mapped
    exact ⟨f, entries, config, count, rfl, loads, i, hi⟩

end Build

end StaticWiring
