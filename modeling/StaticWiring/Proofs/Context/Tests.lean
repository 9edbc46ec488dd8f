import StaticWiring.Proofs.ClassForest.Growth
import StaticWiring.Proofs.Context.Plain

/-!
# The contexts of tests

The contexts of all groups of test classes are generated one behind the other into one forest, whose
first class maps every test class to the position of its initializer. This position is kept by all
later contexts. The classes of the forest have different names only if the initializers do.

## Main definitions

* `Build.sourcesOf` — the sources of the classes of a forest.
* `Build.StartsContextOf` — a class starts the context that a test class asks for.
* `Build.ValidTests` — what holds while contexts of tests are added.

## Main results

* `Build.valid_addTestContext` — one more context keeps this.
* `Build.addTestContexts_cases` — all contexts are added one after the other, if there are any.
* `Build.addTestContexts_eq_ok` — the classes, the map and the sources after all contexts.
* `Build.exists_addTestContexts` — all contexts are generated if each of them is.
-/

namespace StaticWiring

namespace Build

variable {build built : Build} {files : FileTree} {options : Options} {f grown : ClassForest}
  {test : String} {i : Nat}

/-! ### Sources -/

/-- The sources of the classes of a forest. Each class is written once, to a file of its own name.
-/
def sourcesOf (build : Build) (f : ClassForest) : List SourceFile :=
  (f.render ⟨build.classPath, f.package⟩).map fun (name, text) => ⟨f.package, name, text⟩

/-! ### The context of a test class -/

/-- The class at a position is the initializer of the context that the test class asks for, and it
registers, with its forks, what this context consists of. -/
def StartsContextOf (build : Build) (files : FileTree) (options : Options) (f : ClassForest)
    (test : String) (i : Nat) : Prop :=
  ∃ (t : TypeDecl) (g : TestGroup) (plan : ContextPlan) (before : ClassForest)
    (config : NativeConfig) (context : GeneratedContext) (c : GeneratedClass),
    (t ∈ build.classPath.types ∧ t.name = test ∧ t.testContext = some g.context ∧
      test ∈ g.testClasses) ∧
    build.testPlan files g plan.className = .ok plan ∧
    before.package = f.package ∧ plan.generate build options before config = .ok context ∧
    f.registered i = context.forest.registered before.size ∧
    f.get? i = some c ∧ c.name = plan.className ∧ c.role = .initializer

theorem StartsContextOf.lt_size (h : build.StartsContextOf files options f test i) :
    i < f.size := by
  obtain ⟨t, g, plan, before, config, context, c, -, -, -, -, -, hc, -⟩ := h
  exact (List.getElem?_eq_some_iff.1 hc).1

/-- The context stays where it is if its class and its registrations do. Documentation and further
contexts change neither of them. -/
theorem StartsContextOf.transport (h : build.StartsContextOf files options f test i)
    (package : grown.package = f.package) (registered : grown.registered i = f.registered i)
    (here : ∀ c, f.get? i = some c →
      ∃ c', grown.get? i = some c' ∧ c'.name = c.name ∧ c'.role = c.role) :
    build.StartsContextOf files options grown test i := by
  obtain ⟨t, g, plan, before, config, context, c, declared, hplan, hpackage, generated, registers,
    hc, name, role⟩ := h
  obtain ⟨c', hc', name', role'⟩ := here c hc
  exact ⟨t, g, plan, before, config, context, c', declared, hplan, hpackage.trans package.symm,
    generated, registered.trans registers, hc', name'.trans name, role'.trans role⟩

theorem StartsContextOf.distribute (h : build.StartsContextOf files options f test i)
    (limit : Nat) (parent : Option Nat) (name : String) (ws : List Wiring) :
    build.StartsContextOf files options (f.distribute limit parent name ws) test i := by
  refine h.transport rfl (ClassForest.registered_distribute_of_lt h.lt_size limit parent name ws)
    fun c hc => ⟨c, ?_, rfl, rfl⟩
  rw [ClassForest.get?, ClassForest.classes_distribute, List.getElem?_append_left h.lt_size]
  exact hc

/-- Documentation is added to a class. Names, roles, parents and registrations stay. -/
theorem keepsWirings_doc (doc : String) :
    ClassForest.KeepsWirings fun c => { c with doc := some doc } :=
  ⟨fun _ => rfl, fun _ => rfl, fun _ => rfl⟩

theorem StartsContextOf.modify_doc (h : build.StartsContextOf files options f test i) (j : Nat)
    (doc : String) : build.StartsContextOf files options
      (f.modify j fun c => { c with doc := some doc }) test i := by
  refine h.transport rfl (ClassForest.registered_modify (keepsWirings_doc doc) j i) fun c hc => ?_
  rw [ClassForest.get?_modify, hc, Option.map_some]
  split
  · exact ⟨_, rfl, rfl, rfl⟩
  · exact ⟨c, rfl, rfl, rfl⟩

theorem StartsContextOf.modify_of_lt (h : build.StartsContextOf files options f test i) {j : Nat}
    (hj : j < i) (change : GeneratedClass → GeneratedClass) :
    build.StartsContextOf files options (f.modify j change) test i := by
  refine h.transport rfl (ClassForest.registered_modify_of_lt hj change) fun c hc =>
    ⟨c, ?_, rfl, rfl⟩
  rw [ClassForest.get?_modify_of_ne (Nat.ne_of_lt hj), hc]

/-! ### One more context -/

/-- A plan has the classes and the properties that the group asks for, and belongs to the first
class. -/
theorem exists_parts_of_testPlan {g : TestGroup} {className : String} {plan : ContextPlan}
    (h : build.testPlan files g className = .ok plan) :
    ∃ roots environment, build.testRoots g = .ok roots ∧
      build.testEnvironment files g = .ok environment ∧
      plan = ⟨roots, environment, className, some 0⟩ := by
  simp only [testPlan] at h
  cases hroots : build.testRoots g with
  | error cause =>
    rw [hroots] at h
    cases h
  | ok roots =>
    cases henvironment : build.testEnvironment files g with
    | error cause =>
      rw [hroots, henvironment] at h
      cases h
    | ok environment =>
      rw [hroots, henvironment] at h
      cases h
      exact ⟨roots, environment, rfl, rfl, rfl⟩

theorem className_of_testPlan {g : TestGroup} {className : String} {plan : ContextPlan}
    (h : build.testPlan files g className = .ok plan) : plan.className = className := by
  obtain ⟨roots, environment, -, -, rfl⟩ := exists_parts_of_testPlan h
  rfl

/-- The initializer of a new context stands behind all classes so far and starts the context that
the test classes of the group ask for. -/
theorem startsContextOf_of_generates {g : TestGroup} {className : String} {plan : ContextPlan}
    {config : NativeConfig} {context : GeneratedContext}
    (hg : g ∈ TestGroup.ofTypes build.classPath.types) (htest : test ∈ g.testClasses)
    (hplan : build.testPlan files g className = .ok plan)
    (generated : plan.generate build options f config = .ok context) :
    build.StartsContextOf files options context.forest test f.size := by
  obtain ⟨catalog, wired, ordered, generates⟩ := ContextPlan.exists_generates generated
  obtain ⟨t, ht, name, asks⟩ := TestGroup.declared_of_mem_ofTypes hg htest
  obtain ⟨c, hc, initializer, role, -⟩ := generates.exists_initializer
  have package : f.package = context.forest.package := by
    rw [generates.forest_eq]
    rfl
  rw [← className_of_testPlan hplan] at hplan
  exact ⟨t, g, plan, f, config, context, c, ⟨ht, name, asks, htest⟩, hplan, package, generated,
    rfl, hc, initializer, role⟩

/-- What a further context makes of the classes, the configuration and the map. The entries of the
map are only made when all contexts are there. -/
theorem addTestContext_eq_ok {s next : TestContexts} {g : TestGroup} {className : String}
    (h : build.addTestContext files options s g className = .ok next) :
    ∃ plan context, build.testPlan files g className = .ok plan ∧
      plan.generate build options s.forest s.config = .ok context ∧
      next.forest = context.forest.modify s.forest.size (fun c => { c with doc := some g.doc }) ∧
      next.entries = s.entries ++ g.testClasses.map (·, s.forest.size) := by
  simp only [addTestContext] at h
  split at h
  · cases h
  · next plan hplan =>
    split at h
    · cases h
    · next context hcontext =>
      cases h
      exact ⟨plan, context, hplan, hcontext, rfl, rfl⟩

/-- A change of one class is not seen by what it keeps. Names and roles are such views. -/
theorem map_modify {α : Type} {change : GeneratedClass → GeneratedClass}
    {view : GeneratedClass → α} (keeps : ∀ c, view (change c) = view c) (f : ClassForest)
    (j : Nat) : (f.modify j change).classes.map view = f.classes.map view := by
  refine List.ext_getElem? fun k => ?_
  rw [ClassForest.modify, List.getElem?_map, List.getElem?_map, List.getElem?_modify]
  by_cases same : j = k
  · cases f.classes[k]? <;> simp [same, keeps]
  · simp [same]

/-- What holds once the contexts of some groups are added, each with the name of its initializer. It
is the invariant of the loop over the groups. -/
structure ValidTests (build : Build) (files : FileTree) (options : Options)
    (processed : List (TestGroup × String)) (s : TestContexts) : Prop where
  /-- The classes are the map, and for each context its initializer and its forks. -/
  names : ∃ contexts : List (String × Nat), contexts.map Prod.fst = processed.map Prod.snd ∧
    s.forest.classes.map (·.name) =
      TestGroup.rootName :: contexts.flatMap fun c => ClassForest.contextNames c.1 c.2
  /-- The map is still empty. -/
  loaders : ∀ entries, .contextLoaders entries ∈ s.forest.classes.map (·.role) → entries = []
  /-- The test classes of the groups are mapped. -/
  mapped : s.entries.map Prod.fst = processed.flatMap (·.1.testClasses)
  /-- They are mapped to the initializers of the contexts that they ask for. -/
  starts : ∀ test i, (test, i) ∈ s.entries →
    0 < i ∧ build.StartsContextOf files options s.forest test i

variable {processed : List (TestGroup × String)} {s next : TestContexts}

theorem ValidTests.size_pos (h : build.ValidTests files options processed s) :
    0 < s.forest.size := by
  obtain ⟨contexts, -, names⟩ := h.names
  have length := congrArg List.length names
  rw [List.length_map, List.length_cons] at length
  rw [ClassForest.size]
  omega

theorem valid_addTestContext {g : TestGroup} {className : String}
    (hg : g ∈ TestGroup.ofTypes build.classPath.types)
    (h : build.ValidTests files options processed s)
    (added : build.addTestContext files options s g className = .ok next) :
    build.ValidTests files options (processed ++ [(g, className)]) next := by
  obtain ⟨plan, context, hplan, hcontext, hforest, hentries⟩ := addTestContext_eq_ok added
  obtain ⟨catalog, wired, ordered, generates⟩ := ContextPlan.exists_generates hcontext
  have named : plan.className = className := className_of_testPlan hplan
  -- The documentation is the only thing that changes in a class, so what does not look at it is
  -- kept.
  have kept {α : Type} {view : GeneratedClass → α}
      (keeps : ∀ c, view { c with doc := some g.doc } = view c) :=
    map_modify keeps context.forest s.forest.size
  refine ⟨?_, fun entries role => ?_, ?_, fun test i hi => ?_⟩
  · obtain ⟨contexts, initializers, names⟩ := h.names
    let count := (ClassForest.chunks (max options.statementsPerClass 1) ordered).tail.length
    refine ⟨contexts ++ [(className, count)], ?_, ?_⟩
    · rw [List.map_append, initializers, List.map_append]
      rfl
    · rw [hforest, kept (fun _ => rfl), generates.classes_eq, List.map_append, names,
        ClassForest.map_name_contextClasses, named, List.flatMap_append, List.cons_append,
        List.flatMap_singleton]
  · rw [hforest, kept (fun _ => rfl), generates.classes_eq, List.map_append] at role
    rcases List.mem_append.1 role with role | role
    · exact h.loaders entries role
    · obtain ⟨c, hc, role⟩ := List.mem_map.1 role
      rw [← generates.added_eq] at hc
      rcases generates.role_of_mem_added hc with other | other <;> rw [other] at role <;> cases role
  · rw [hentries, List.map_append, h.mapped, List.flatMap_append, List.flatMap_singleton,
      List.map_map]
    exact congrArg _ (List.map_id g.testClasses)
  · rw [hentries] at hi
    rcases List.mem_append.1 hi with hi | hi
    · obtain ⟨positive, starts⟩ := h.starts test i hi
      rw [hforest, generates.forest_eq]
      exact ⟨positive, (starts.distribute _ _ _ _).modify_doc _ _⟩
    · obtain ⟨test', htest, same⟩ := List.mem_map.1 hi
      obtain ⟨rfl, rfl⟩ := Prod.mk.inj same
      rw [hforest]
      exact ⟨h.size_pos, (startsContextOf_of_generates hg htest hplan hcontext).modify_doc _ _⟩

/-! ### All contexts -/

/-- The class that maps test classes to contexts, as it stands before the first context. It is added
first, so that initializers can belong to it. -/
def rootClass : GeneratedClass :=
  { name := TestGroup.rootName, role := .contextLoaders [] }

/-- The forest in which only the class that maps test classes to contexts stands. The package is the
one that the options state, or else that of tests. -/
def testsStart (build : Build) (options : Options) : TestContexts where
  forest := ({ package := options.package.getD testPackage } : ClassForest).add rootClass
  config := build.config

theorem validTests_start (build : Build) (files : FileTree) (options : Options) :
    build.ValidTests files options [] (build.testsStart options) where
  names := ⟨[], rfl, rfl⟩
  loaders entries role := by
    have role := List.mem_singleton.1 role
    injection role
  mapped := rfl
  starts test i hi := absurd hi List.not_mem_nil

/-- The forest once the map is filled. No other class changes, nor does any registration. -/
def TestContexts.filled (s : TestContexts) : ClassForest :=
  s.forest.modify 0 fun c => { c with role := .contextLoaders s.entries }

theorem ValidTests.entries_eq (h : build.ValidTests files options processed s)
    {c : GeneratedClass} (hc : c ∈ s.filled.classes) {entries : List (String × Nat)}
    (role : c.role = .contextLoaders entries) : entries = s.entries ∨ entries = [] := by
  obtain ⟨k, hk⟩ := List.getElem?_of_mem hc
  rw [TestContexts.filled, ClassForest.modify, List.getElem?_modify] at hk
  cases hold : s.forest.classes[k]? with
  | none => simp [hold] at hk
  | some old =>
    simp only [hold, Option.map_eq_map, Option.map_some, Option.some.injEq] at hk
    split at hk
    · rw [← hk] at role
      injection role with same
      exact .inl same.symm
    · have mem : old ∈ s.forest.classes := List.mem_of_getElem? hold
      rw [← hk] at role
      exact .inr (h.loaders entries (role ▸ List.mem_map_of_mem mem))

/-- The map is the first class. It is found by its role, as code that uses the map would find it. -/
theorem ValidTests.exists_loader (h : build.ValidTests files options processed s) :
    ∃ c ∈ s.filled.classes, c.role = .contextLoaders s.entries := by
  have first : s.filled.classes[0]? = (s.forest.classes[0]?).map
      fun c => { c with role := .contextLoaders s.entries } := by
    rw [TestContexts.filled, ClassForest.modify, List.getElem?_modify_eq]
    rfl
  rw [List.getElem?_eq_getElem h.size_pos] at first
  exact ⟨_, List.mem_of_getElem? first, rfl⟩

theorem ValidTests.nodup_names_iff {gs : List TestGroup}
    (nonempty : ∀ g ∈ gs, g.testClasses ≠ [])
    (h : build.ValidTests files options (TestGroup.named 0 gs) s) :
    (s.filled.classes.map (·.name)).Nodup ↔
      ((TestGroup.onlyTests gs).map TestGroup.flatName).Nodup := by
  obtain ⟨contexts, initializers, names⟩ := h.names
  have initializer (context : String × Nat) (hcontext : context ∈ contexts) :
      ClassForest.IsContextName context.1 := by
    have named : context.1 ∈ (TestGroup.named 0 gs).map Prod.snd := by
      rw [← initializers]
      exact List.mem_map_of_mem hcontext
    exact ClassForest.isContextName_of_mem_named nonempty named
  have kept : s.filled.classes.map (·.name) = s.forest.classes.map (·.name) :=
    map_modify (fun c => show ({ c with role := .contextLoaders s.entries }).name = c.name from rfl)
      s.forest 0
  rw [kept, names, ClassForest.nodup_contextNames_iff initializer, initializers,
    TestGroup.nodup_named_iff nonempty]

/-- A class maps the test class to a position. Which position it is, is left open. -/
def MapsTest (f : ClassForest) (test : String) : Prop :=
  ∃ c ∈ f.classes, ∃ entries, c.role = .contextLoaders entries ∧ test ∈ entries.map Prod.fst

/-- The test classes of all groups are mapped. No group is left out, even if its context has no
definitions. -/
theorem ValidTests.mapsTest {gs : List TestGroup}
    (h : build.ValidTests files options (TestGroup.named 0 gs) s) {g : TestGroup} (hg : g ∈ gs)
    (htest : test ∈ g.testClasses) : MapsTest s.filled test := by
  obtain ⟨c, hc, role⟩ := h.exists_loader
  rw [← TestGroup.map_fst_named 0 gs] at hg
  obtain ⟨entry, hentry, rfl⟩ := List.mem_map.1 hg
  refine ⟨c, hc, s.entries, role, ?_⟩
  rw [h.mapped]
  exact List.mem_flatMap.2 ⟨entry, hentry, htest⟩

/-- Test classes are mapped to the contexts that they ask for once the map is filled. Filling the
map changes neither the initializers nor their forks. -/
theorem ValidTests.starts_filled (h : build.ValidTests files options processed s)
    {c : GeneratedClass} (hc : c ∈ s.filled.classes) {entries : List (String × Nat)}
    (role : c.role = .contextLoaders entries) (hi : (test, i) ∈ entries) :
    build.StartsContextOf files options s.filled test i := by
  rcases h.entries_eq hc role with rfl | rfl
  · obtain ⟨positive, starts⟩ := h.starts test i hi
    exact starts.modify_of_lt positive _
  · exact absurd hi List.not_mem_nil

/-- Either there is no test class, or the contexts of all groups are added one after the other, and
then the map is filled. -/
theorem addTestContexts_cases (h : build.addTestContexts files options = .ok built) :
    (TestGroup.ofTypes build.classPath.types = [] ∧ built = build) ∨
      ∃ s, (TestGroup.named 0 (TestGroup.ofTypes build.classPath.types)).foldlM
          (fun s (g, className) => build.addTestContext files options s g className)
          (build.testsStart options) = .ok s ∧
        built = { build with config := s.config }.addClasses s.filled s.definitionCount := by
  simp only [addTestContexts] at h
  split at h
  · next none =>
    cases h
    exact .inl ⟨none, rfl⟩
  · right
    cases hdone : (TestGroup.named 0 (TestGroup.ofTypes build.classPath.types)).foldlM
        (fun s (g, className) => build.addTestContext files options s g className)
        (build.testsStart options) with
    | error e =>
      simp only [testsStart, rootClass] at hdone
      simp only [hdone] at h
      cases h
    | ok s =>
      refine ⟨s, rfl, ?_⟩
      simp only [testsStart, rootClass] at hdone
      simp only [hdone] at h
      cases h
      rfl

/-- What is known of the contexts holds once all of them are added. The induction is over the
groups, each of which adds one context. -/
theorem validTests_of_foldlM
    (h : (TestGroup.named 0 (TestGroup.ofTypes build.classPath.types)).foldlM
      (fun s (g, className) => build.addTestContext files options s g className)
      (build.testsStart options) = .ok s) :
    build.ValidTests files options
      (TestGroup.named 0 (TestGroup.ofTypes build.classPath.types)) s := by
  refine Lists.foldlM_keeps (fun entry hentry done s next valid added => ?_)
    (validTests_start build files options) h
  exact valid_addTestContext (TestGroup.fst_mem_of_mem_named hentry) valid added

/-- What the contexts of tests add to the sources, and what is known of the classes. It is all that
later results need to know of the loop. -/
theorem addTestContexts_eq_ok (h : build.addTestContexts files options = .ok built) :
    ∃ f : ClassForest, built.sources = build.sources ++ build.sourcesOf f ∧
      ((f.classes.map (·.name)).Nodup ↔
        ((TestGroup.onlyTests (TestGroup.ofTypes build.classPath.types)).map
          TestGroup.flatName).Nodup) ∧
      (∀ t ∈ build.classPath.types, t.testContext.isSome → MapsTest f t.name) ∧
      ∀ c ∈ f.classes, ∀ entries, c.role = .contextLoaders entries →
        ∀ test i, (test, i) ∈ entries → build.StartsContextOf files options f test i := by
  have grouped {t : TypeDecl} (ht : t ∈ build.classPath.types) (asks : t.testContext.isSome) :
      ∃ g ∈ TestGroup.ofTypes build.classPath.types, t.name ∈ g.testClasses := by
    obtain ⟨context, asks⟩ := Option.isSome_iff_exists.1 asks
    exact TestGroup.exists_mem_ofTypes ht asks
  rcases addTestContexts_cases h with ⟨none, rfl⟩ | ⟨s, added, rfl⟩
  · rw [none] at grouped ⊢
    refine ⟨{ package := "" }, (List.append_nil _).symm, ?_, fun t ht asks => ?_, fun c hc => ?_⟩
    · exact ⟨fun _ => List.nodup_nil, fun _ => List.nodup_nil⟩
    · obtain ⟨g, hg, -⟩ := grouped ht asks
      exact absurd hg List.not_mem_nil
    · exact absurd hc List.not_mem_nil
  · have valid := validTests_of_foldlM added
    refine ⟨s.filled, rfl, ?_, fun t ht asks => ?_, fun c hc entries role test i hi => ?_⟩
    · exact valid.nodup_names_iff fun g hg => TestGroup.testClasses_ne_nil_of_mem_ofTypes hg
    · obtain ⟨g, hg, htest⟩ := grouped ht asks
      exact valid.mapsTest hg htest
    · exact valid.starts_filled hc role hi

/-- The contexts of tests are generated if each of them is, whatever the other ones lead to.
Failures do not depend on what was generated before. -/
theorem exists_addTestContexts
    (h : ∀ g ∈ TestGroup.ofTypes build.classPath.types, ∀ s className,
      ∃ next, build.addTestContext files options s g className = .ok next) :
    ∃ built, build.addTestContexts files options = .ok built := by
  rw [addTestContexts]
  split
  · exact ⟨build, rfl⟩
  · obtain ⟨s, hs⟩ := Lists.exists_foldlM_eq_ok
      (fun (entry : TestGroup × String) (hentry : entry ∈ TestGroup.named 0 _) s =>
        h entry.1 (TestGroup.fst_mem_of_mem_named hentry) s entry.2)
      { forest := ({ package := options.package.getD testPackage } : ClassForest).add
          { name := TestGroup.rootName, role := .contextLoaders [] }
        config := build.config }
    simp only [hs]
    exact ⟨_, rfl⟩

end Build

end StaticWiring
