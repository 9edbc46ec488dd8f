import StaticWiring.Proofs.Context.Tests

/-!
# The sources of the contexts of tests

The classes of all contexts of tests stand in one package, where a test class is written with the
name of its initializer. Groups of several test classes are numbered, and so are forks, but the
initializer of a single test class has the name of this class without its package. Test classes of
one name in two packages thus have initializers of one name.

## Main definitions

* `SourceFile.key` — what tells a source from other ones.
* `Build.NamesInitializers` — the map names the initializers of the contexts that are asked for.
* `Sample.testBuild` — a build with two test classes.

## Main results

* `Build.sources_distinct_iff` — when the contexts of tests have sources of different names.
* `Sample.not_sources_distinct_sameName` — not for test classes of one name in two packages.
-/

namespace StaticWiring

variable {build built : Build} {files : FileTree} {options : Options} {f : ClassForest} {i : Nat}

/-- What tells a source from other ones: the package and the name of its class. Two sources with the
same key would be written to the same file. -/
def SourceFile.key (file : SourceFile) : String × String :=
  (file.package, file.className)

namespace Build

/-! ### Names of sources and classes -/

theorem map_key_sourcesOf (build : Build) (f : ClassForest) :
    (build.sourcesOf f).map SourceFile.key = f.classes.map fun c => (f.package, c.name) := by
  have classes : f.classes.zipIdx.map Prod.fst = f.classes := List.zipIdx_map_fst 0 f.classes
  conv => rhs; rw [← classes]
  rw [sourcesOf, ClassForest.render, List.map_map, List.map_map, List.map_map]
  rfl

theorem nodup_key_sourcesOf_iff (build : Build) (f : ClassForest) :
    ((build.sourcesOf f).map SourceFile.key).Nodup ↔ (f.classes.map (·.name)).Nodup := by
  rw [map_key_sourcesOf, List.Nodup, List.Nodup, List.pairwise_map, List.pairwise_map]
  simp

/-- Every test class is mapped to the name of the initializer of the context that it asks for, which
is the name of no other class. -/
def NamesInitializers (build : Build) (files : FileTree) (options : Options) (f : ClassForest) :
    Prop :=
  ∀ c ∈ f.classes, ∀ entries, c.role = .contextLoaders entries → ∀ test i, (test, i) ∈ entries →
    build.StartsContextOf files options f test i ∧
      ∀ j < f.size, f.qualifiedName j = f.qualifiedName i → j = i

theorem qualify_inj {package name name' : String}
    (h : TypeName.qualify package name = TypeName.qualify package name') : name = name' := by
  unfold TypeName.qualify at h
  split at h
  · exact h
  · have lists := congrArg String.toList h
    simp only [String.toList_append, List.append_cancel_left_eq] at lists
    exact String.toList_injective lists

theorem eq_of_qualifiedName {j : Nat} (nodup : (f.classes.map (·.name)).Nodup) (hi : i < f.size)
    (hj : j < f.size) (same : f.qualifiedName j = f.qualifiedName i) : j = i := by
  have names (k : Nat) (hk : k < f.size) :
      (f.classes.map (·.name))[k]? = some ((f.get? k).getD default).name := by
    rw [List.getElem?_map, ClassForest.get?, List.getElem?_eq_getElem hk]
    rfl
  refine (List.getElem?_inj (by rwa [List.length_map]) nodup).1 ?_
  rw [names j hj, names i hi, qualify_inj same]

end Build

/-! ### Builds with two test classes -/

namespace Sample

open Build

/-- What the first test class asks for. It differs from the other one in its profile only. -/
def firstTest : TestContext where
  classes := ["app.Main"]
  activeProfiles := ["first"]

/-- What the second test class asks for. The two test classes therefore do not share a context. -/
def secondTest : TestContext where
  classes := ["app.Main"]
  activeProfiles := ["second"]

/-- A build with test classes of these names, which ask for different contexts. The samples differ
in these names only. -/
def testBuild (first second : String)
    (distinct : (["app.Main", first, second] : List String).Nodup) : Build where
  classPath := {
    types := [mainClass, { name := first, testContext := some firstTest },
      { name := second, testContext := some secondTest }]
    nodup_names := distinct }
  environment := {}

variable {first second : String} {distinct : (["app.Main", first, second] : List String).Nodup}

theorem ofTypes_testBuild (ascend : first < second) :
    TestGroup.ofTypes (testBuild first second distinct).classPath.types =
      [⟨firstTest, [first]⟩, ⟨secondTest, [second]⟩] := by
  have sorted : TestGroup.sorted [(first, firstTest), (second, secondTest)] =
      [(first, firstTest), (second, secondTest)] := by
    refine List.mergeSort_of_pairwise (List.pairwise_pair.2 ?_)
    rw [Bool.not_eq_true', decide_eq_false_iff_not]
    exact Std.not_lt.2 (Std.le_of_lt ascend)
  change TestGroup.ofSorted (TestGroup.sorted [(first, firstTest), (second, secondTest)]) = _
  rw [sorted]
  rfl

/-- The context of the class is generated whatever is generated before it. No test class can thus
make the run fail. -/
theorem exists_addTestContext_testBuild (files : FileTree) {g : TestGroup}
    (main : g.context.classes = ["app.Main"]) (s : TestContexts) (className : String) :
    ∃ next, (testBuild first second distinct).addTestContext files {} s g className =
      .ok next := by
  obtain ⟨environment, henvironment⟩ :
      ∃ environment, (testBuild first second distinct).testEnvironment files g = .ok environment :=
    ⟨_, rfl⟩
  have hroots : (testBuild first second distinct).testRoots g = .ok ["app.Main"] := by
    rw [testRoots, main]
    rfl
  have hplan : (testBuild first second distinct).testPlan files g className =
      .ok ⟨["app.Main"], environment, className, some 0⟩ := by
    rw [testPlan, hroots, henvironment]
    rfl
  obtain ⟨context, generated⟩ : ∃ context,
      ContextPlan.generate ⟨["app.Main"], environment, className, some 0⟩
        (testBuild first second distinct) {} s.forest s.config = .ok context := by
    refine ⟨_, ContextPlan.generate_of_plain (t := mainClass) (w := mainWiring) rfl rfl rfl
      ⟨rfl, rfl, rfl, rfl⟩ (by decide) (by decide) (fun catalog _ => ?_) (by decide)⟩
    exact Assembly.wire_of_parts rfl
      (Assembly.injections_of_plain (t := mainClass) rfl rfl rfl rfl)
  simp only [addTestContext, hplan, generated]
  exact ⟨_, rfl⟩

theorem exists_addTestContexts_testBuild
    (distinct : (["app.Main", first, second] : List String).Nodup) (files : FileTree)
    (ascend : first < second) :
    ∃ built, (testBuild first second distinct).addTestContexts files {} = .ok built := by
  refine exists_addTestContexts fun g hg => exists_addTestContext_testBuild files ?_
  rw [ofTypes_testBuild ascend] at hg
  rcases List.mem_pair.1 hg with rfl | rfl <;> rfl

end Sample

namespace Build

/-! ### Different sources -/

/-- The sources of the contexts of tests have classes of different names, and every test class is
mapped to the name of the initializer of its own context and of no other class, exactly if the test
classes that share their context with no other one have different names without their packages, once
underscores stand around nested classes. -/
theorem sources_distinct_iff (h : build.addTestContexts files options = .ok built) :
    ∃ f : ClassForest, built.sources = build.sources ++ build.sourcesOf f ∧
      (∀ t ∈ build.classPath.types, t.testContext.isSome → MapsTest f t.name) ∧
      (((build.sourcesOf f).map SourceFile.key).Nodup ∧ build.NamesInitializers files options f ↔
        ((TestGroup.onlyTests (TestGroup.ofTypes build.classPath.types)).map
          TestGroup.flatName).Nodup) := by
  obtain ⟨f, sources, distinct, mapped, starts⟩ := addTestContexts_eq_ok h
  refine ⟨f, sources, mapped, ?_⟩
  rw [nodup_key_sourcesOf_iff, ← distinct]
  refine ⟨And.left, fun nodup => ⟨nodup, fun c hc entries role test i hi => ?_⟩⟩
  have started := starts c hc entries role test i hi
  exact ⟨started, fun j hj same => eq_of_qualifiedName nodup started.lt_size hj same⟩

theorem sources_distinct_differentName :
    ∃ built, (Sample.testBuild "a.BarTests" "a.FooTests" (by decide)).addTestContexts {} {} =
        .ok built ∧
      (built.sources.map SourceFile.key).Nodup := by
  obtain ⟨built, h⟩ := Sample.exists_addTestContexts_testBuild (by decide) {}
    (show "a.BarTests" < "a.FooTests" by decide)
  obtain ⟨f, sources, -, distinct⟩ := sources_distinct_iff h
  refine ⟨built, h, ?_⟩
  rw [sources]
  refine (distinct.2 ?_).1
  rw [Sample.ofTypes_testBuild (by decide)]
  decide +kernel

end Build

namespace Sample

open Build

/-- Both contexts are started by a class of the same name. -/
theorem not_sources_distinct_sameName :
    ∃ built, (testBuild "a.FooTests" "b.FooTests" (by decide)).addTestContexts {} {} = .ok built ∧
      ¬ (built.sources.map SourceFile.key).Nodup := by
  obtain ⟨built, h⟩ := exists_addTestContexts_testBuild (by decide) {}
    (show "a.FooTests" < "b.FooTests" by decide)
  obtain ⟨f, sources, distinct, -, -⟩ := addTestContexts_eq_ok h
  refine ⟨built, h, fun nodup => ?_⟩
  rw [sources, testBuild, List.nil_append, nodup_key_sourcesOf_iff, distinct,
    ofTypes_testBuild (by decide)] at nodup
  exact absurd nodup (by decide +kernel)

end Sample

end StaticWiring
