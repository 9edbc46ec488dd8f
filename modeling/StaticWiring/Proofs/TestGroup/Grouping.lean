import StaticWiring.ClassPath
import StaticWiring.Proofs.Lists
import StaticWiring.Proofs.TestGroup

/-!
# The groups of test classes

Every test class is in one group, with exactly the test classes that ask for the same context. The
groups come about when the test classes join in ascending order, each the group of its context, or a
new one behind all others. As the classes of a group ascend, the first class of a group is the one
that started it, so that the groups ascend by their first classes.

Since no two types share a name, there is only one ascending order of the test classes. The groups
are the same whatever the order in which the types were found.

## Main definitions

* `TestGroup.join`, `TestGroup.inTurn` — test classes join groups one after the other.
* `TestGroup.IsGrouping` — the groups of the test classes among types.

## Main results

* `TestGroup.inTurn_eq_ofSorted` — the groups once all test classes have joined.
* `TestGroup.pairwise_firsts_ofSorted` — the groups ascend by their first classes.
* `TestGroup.isGrouping_ofTypes`, `TestGroup.ofTypes_eq_of_perm` — the groups of types.
-/

namespace StaticWiring.TestGroup

variable {g : TestGroup} {gs : List TestGroup} {types : List TypeDecl} {test : String × TestContext}
  {tests : List (String × TestContext)}

/-! ### One test class after the other -/

/-- A test class joins the first group with its context, or starts a group behind all others. The
groups that are passed over stay as they are. -/
def join (test : String × TestContext) : List TestGroup → List TestGroup
  | [] => [⟨test.2, [test.1]⟩]
  | g :: gs =>
    if g.context = test.2 then { g with testClasses := g.testClasses ++ [test.1] } :: gs
    else g :: join test gs

/-- The groups once test classes have joined one after the other. It is the loop of the program,
where the groups are kept in a list. -/
def inTurn (tests : List (String × TestContext)) : List TestGroup :=
  tests.foldl (fun groups test => join test groups) []

theorem join_cons_of_eq (own : g.context = test.2) (gs : List TestGroup) :
    join test (g :: gs) = { g with testClasses := g.testClasses ++ [test.1] } :: gs :=
  if_pos own

theorem join_cons_of_ne (other : g.context ≠ test.2) (gs : List TestGroup) :
    join test (g :: gs) = g :: join test gs :=
  if_neg other

/-- The group of a context. Its classes are in the order of the tests. -/
def ofContext (tests : List (String × TestContext)) (context : TestContext) : TestGroup :=
  ⟨context, (tests.filter (·.2 == context)).map Prod.fst⟩

theorem ofContext_concat_of_ne {context : TestContext} (other : test.2 ≠ context) :
    ofContext (tests ++ [test]) context = ofContext tests context := by
  simp [ofContext, other]

theorem ofContext_concat_of_eq (tests : List (String × TestContext)) (test : String × TestContext) :
    ofContext (tests ++ [test]) test.2 =
      { ofContext tests test.2 with
        testClasses := (ofContext tests test.2).testClasses ++ [test.1] } := by
  simp [ofContext]

theorem ofContext_concat_of_not_mem (new : test.2 ∉ tests.map Prod.snd) :
    ofContext (tests ++ [test]) test.2 = ⟨test.2, [test.1]⟩ := by
  have none : tests.filter (·.2 == test.2) = [] := by
    refine List.filter_eq_nil_iff.2 fun entry hentry same => new ?_
    rw [← eq_of_beq same]
    exact List.mem_map_of_mem hentry
  rw [ofContext_concat_of_eq, ofContext, none]
  rfl

/-- A test class starts a group if none has its context. The other groups get no further class. -/
theorem join_of_not_mem {contexts : List TestContext} (new : test.2 ∉ contexts) :
    join test (contexts.map (ofContext tests)) =
      contexts.map (ofContext (tests ++ [test])) ++ [⟨test.2, [test.1]⟩] := by
  induction contexts with
  | nil => rfl
  | cons context contexts ih =>
    obtain ⟨other, new⟩ := List.ne_and_not_mem_of_not_mem_cons new
    have other' : (ofContext tests context).context ≠ test.2 := other.symm
    rw [List.map_cons, join_cons_of_ne other', ih new, List.map_cons,
      ofContext_concat_of_ne other, List.cons_append]

/-- A test class joins the group that has its context. Contexts are all different, so that only one
group changes. -/
theorem join_of_mem {contexts : List TestContext} (nodup : contexts.Nodup)
    (mem : test.2 ∈ contexts) :
    join test (contexts.map (ofContext tests)) = contexts.map (ofContext (tests ++ [test])) := by
  induction contexts with
  | nil => cases mem
  | cons context contexts ih =>
    obtain ⟨fresh, nodup⟩ := List.nodup_cons.1 nodup
    rw [List.map_cons, List.map_cons]
    by_cases own : context = test.2
    · subst own
      have others : contexts.map (ofContext (tests ++ [test])) = contexts.map (ofContext tests) :=
        List.map_congr_left fun c hc =>
          ofContext_concat_of_ne fun (same : test.2 = c) => fresh (same ▸ hc)
      have own : (ofContext tests test.2).context = test.2 := rfl
      rw [join_cons_of_eq own, ofContext_concat_of_eq, others]
    · have other : (ofContext tests context).context ≠ test.2 := own
      rw [join_cons_of_ne other, ofContext_concat_of_ne (Ne.symm own),
        ih nodup ((List.mem_cons.1 mem).resolve_left (Ne.symm own))]

/-- The groups with one more test class are those that it has joined. It is the step that relates
the loop to the description of all groups. -/
theorem ofSorted_concat (tests : List (String × TestContext)) (test : String × TestContext) :
    ofSorted (tests ++ [test]) = join test (ofSorted tests) := by
  show ((tests ++ [test]).map Prod.snd).eraseDups.map (ofContext (tests ++ [test])) =
    join test ((tests.map Prod.snd).eraseDups.map (ofContext tests))
  rw [List.map_append, List.eraseDups_append, List.map_append]
  by_cases mem : test.2 ∈ tests.map Prod.snd
  · -- The contexts stay, and one group has one more class.
    have known : [test.2].removeAll (tests.map Prod.snd) = [] := by
      simpa [List.removeAll] using mem
    rw [join_of_mem (Lists.nodup_eraseDups _) (List.mem_eraseDups.2 mem), List.map_cons,
      List.map_nil, known, List.eraseDups_nil, List.map_nil, List.append_nil]
  · -- There is one more context, and its group has this class only.
    have new : [test.2].removeAll (tests.map Prod.snd) = [test.2] := by
      simpa [List.removeAll] using mem
    rw [join_of_not_mem (mt List.mem_eraseDups.1 mem), List.map_cons, List.map_nil, new,
      ← ofContext_concat_of_not_mem mem]
    rfl

/-- The groups are those that the test classes join one after the other. The induction is on the
test classes, from the last one. -/
theorem inTurn_eq_ofSorted (tests : List (String × TestContext)) :
    inTurn tests = ofSorted tests := by
  induction tests using List.reverseRecOn with
  | nil => rfl
  | append_singleton tests test ih => rw [inTurn, List.foldl_concat, ← inTurn, ih, ofSorted_concat]

/-! ### First classes -/

/-- The first classes of groups. Groups are told apart by them. -/
def firsts (gs : List TestGroup) : List String :=
  gs.filterMap (·.testClasses.head?)

theorem firsts_cons (nonempty : g.testClasses ≠ []) (gs : List TestGroup) :
    firsts (g :: gs) = g.testClasses.head nonempty :: firsts gs := by
  simp only [firsts, List.filterMap_cons, List.head?_eq_some_head nonempty]

/-- A test class that joins is the first class of no group, or of the last one. The order of the
groups is therefore that in which they were started. -/
theorem firsts_join (nonempty : ∀ g ∈ gs, g.testClasses ≠ []) (test : String × TestContext) :
    firsts (join test gs) = firsts gs ∨ firsts (join test gs) = firsts gs ++ [test.1] := by
  induction gs with
  | nil => exact .inr rfl
  | cons g gs ih =>
    obtain ⟨some, others⟩ := List.forall_mem_cons.1 nonempty
    by_cases own : g.context = test.2
    · -- The group has a first class already, which stays.
      left
      rw [join_cons_of_eq own, firsts_cons (by simp), firsts_cons some]
      simp only [List.head_append_of_ne_nil some]
    · rw [join_cons_of_ne own, firsts_cons some, firsts_cons some]
      exact (ih others).imp (congrArg _) (congrArg _)

theorem mem_of_mem_firsts_ofSorted {name : String} (h : name ∈ firsts (ofSorted tests)) :
    name ∈ tests.map Prod.fst := by
  obtain ⟨g, hg, first⟩ := List.mem_filterMap.1 h
  obtain ⟨context, -, rfl⟩ := List.mem_map.1 hg
  obtain ⟨entry, hentry, rfl⟩ := List.mem_map.1 (List.mem_of_mem_head? first)
  exact List.mem_map_of_mem (List.mem_filter.1 hentry).1

/-- The groups of ascending test classes ascend by their first classes. Test classes were sorted
before they are grouped. -/
theorem pairwise_firsts_ofSorted (ascends : (tests.map Prod.fst).Pairwise (· < ·)) :
    (firsts (ofSorted tests)).Pairwise (· < ·) := by
  induction tests using List.reverseRecOn with
  | nil => exact .nil
  | append_singleton tests test ih =>
    rw [List.map_append, List.pairwise_append] at ascends
    obtain ⟨ascends, -, greater⟩ := ascends
    rw [ofSorted_concat]
    rcases firsts_join (fun g hg => testClasses_ne_nil_of_mem_ofSorted hg) test with same | new
    · rw [same]
      exact ih ascends
    · rw [new, List.pairwise_append]
      refine ⟨ih ascends, List.pairwise_singleton _ _, fun name hname => ?_⟩
      exact greater name (mem_of_mem_firsts_ofSorted hname)

/-! ### Test classes in ascending order -/

theorem testClassesOf_sublist (types : List TypeDecl) :
    ((testClassesOf types).map Prod.fst).Sublist (types.map (·.name)) := by
  induction types with
  | nil => exact .slnil
  | cons t types ih =>
    cases asks : t.testContext with
    | none => simpa [testClassesOf, asks] using ih.cons t.name
    | some context => simpa [testClassesOf, asks] using ih

theorem sorted_perm (tests : List (String × TestContext)) : (sorted tests).Perm tests :=
  List.mergeSort_perm tests _

/-- The sorted test classes ascend if no two of them share a name. Sorting alone would not rule out
equal names. -/
theorem pairwise_sorted (nodup : (tests.map Prod.fst).Nodup) :
    ((sorted tests).map Prod.fst).Pairwise (· < ·) := by
  have distinct : ((sorted tests).map Prod.fst).Pairwise (· ≠ ·) :=
    ((sorted_perm tests).map Prod.fst).nodup_iff.2 nodup
  have ascends : (sorted tests).Pairwise fun a b => !decide (b.1 < a.1) := by
    refine List.pairwise_mergeSort (fun a b c => ?_) (fun a b => ?_) tests
    · simp only [Bool.not_eq_true', decide_eq_false_iff_not, String.not_lt]
      exact String.le_trans
    · simp only [Bool.or_eq_true, Bool.not_eq_true', decide_eq_false_iff_not, String.not_lt]
      exact String.le_total a.1 b.1
  rw [List.pairwise_map] at distinct ⊢
  refine (distinct.and ascends).imp fun {a b} ⟨ne, notGreater⟩ => ?_
  simp only [Bool.not_eq_true', decide_eq_false_iff_not, String.not_lt] at notGreater
  exact String.not_le.1 fun ge => ne (String.le_antisymm notGreater ge)

/-- Test classes have one ascending order. The order in which types are found is thus of no account.
-/
theorem sorted_eq_of_perm {tests' : List (String × TestContext)} (perm : tests.Perm tests')
    (nodup : (tests.map Prod.fst).Nodup) : sorted tests = sorted tests' := by
  have ascends := pairwise_sorted nodup
  have ascends' := pairwise_sorted ((perm.map Prod.fst).nodup_iff.1 nodup)
  rw [List.pairwise_map] at ascends ascends'
  refine List.Perm.eq_of_pairwise (fun a b _ _ less greater => ?_) ascends ascends' ?_
  · exact absurd greater (String.lt_asymm less)
  · exact (sorted_perm tests).trans (perm.trans (sorted_perm tests').symm)

/-! ### The groups of types -/

/-- The groups of the test classes among types. They are determined by these conditions, apart from
their order. -/
structure IsGrouping (types : List TypeDecl) (gs : List TestGroup) : Prop where
  /-- Every test class is in one group. -/
  placed : ∀ t ∈ types, t.testContext.isSome →
    ∃! i : Nat, ∃ g, gs[i]? = some g ∧ t.name ∈ g.testClasses
  /-- Two test classes are in the same group if they ask for the same context. -/
  together : ∀ t ∈ types, ∀ t' ∈ types, t.testContext.isSome → t'.testContext.isSome →
    ((∃ g ∈ gs, t.name ∈ g.testClasses ∧ t'.name ∈ g.testClasses) ↔
      t.testContext = t'.testContext)
  /-- The classes of a group are test classes that ask for its context. -/
  declared : ∀ g ∈ gs, ∀ test ∈ g.testClasses,
    ∃ t ∈ types, t.name = test ∧ t.testContext = some g.context
  /-- There is no group without classes. -/
  nonempty : ∀ g ∈ gs, g.testClasses ≠ []
  /-- The classes of a group ascend. -/
  ascends : ∀ g ∈ gs, g.testClasses.Pairwise (· < ·)
  /-- The groups ascend by their first classes. -/
  firsts_ascend : (firsts gs).Pairwise (· < ·)

/-- No two groups have the same context. Groups are started for new contexts only. -/
theorem nodup_contexts (types : List TypeDecl) : ((ofTypes types).map (·.context)).Nodup := by
  have contexts : (ofTypes types).map (·.context) =
      ((sorted (testClassesOf types)).map Prod.snd).eraseDups := by
    rw [ofTypes, ofSorted, List.map_map]
    exact List.map_id _
  rw [contexts]
  exact Lists.nodup_eraseDups _

/-- A test class is in the group of its context only. Different names make a class ask for a single
context. -/
theorem mem_testClasses_iff {t : TypeDecl} {context : TestContext}
    (nodup : (types.map (·.name)).Nodup) (ht : t ∈ types) (asks : t.testContext = some context)
    (hg : g ∈ ofTypes types) : t.name ∈ g.testClasses ↔ g.context = context := by
  constructor
  · intro mem
    obtain ⟨t', ht', name, asks'⟩ := declared_of_mem_ofTypes hg mem
    obtain rfl := List.inj_on_of_nodup_map nodup ht' ht name
    exact Option.some.inj (asks'.symm.trans asks)
  · rintro rfl
    obtain ⟨context, -, rfl⟩ := List.mem_map.1 hg
    have entry := mem_sorted.2 (mem_testClassesOf.2 ⟨t, ht, rfl, asks⟩)
    exact List.mem_map.2 ⟨_, List.mem_filter.2 ⟨entry, beq_self_eq_true _⟩, rfl⟩

theorem nodup_testClassesOf (nodup : (types.map (·.name)).Nodup) :
    ((testClassesOf types).map Prod.fst).Nodup :=
  nodup.sublist (testClassesOf_sublist types)

/-- The groups of types without shared names. Each condition follows from what the groups are made
of. -/
theorem isGrouping_ofTypes (nodup : (types.map (·.name)).Nodup) :
    IsGrouping types (ofTypes types) where
  placed t ht asks := by
    obtain ⟨context, asks⟩ := Option.isSome_iff_exists.1 asks
    obtain ⟨g, hg, mem⟩ := exists_mem_ofTypes ht asks
    obtain ⟨i, hi⟩ := List.getElem?_of_mem hg
    refine ⟨i, ⟨g, hi, mem⟩, fun j ⟨g', hj, mem'⟩ => ?_⟩
    have own := (mem_testClasses_iff nodup ht asks hg).1 mem
    have own' := (mem_testClasses_iff nodup ht asks (List.mem_of_getElem? hj)).1 mem'
    have hlt : j < ((ofTypes types).map (·.context)).length := by
      rw [List.length_map]
      exact (List.getElem?_eq_some_iff.1 hj).1
    refine (List.getElem?_inj hlt (nodup_contexts types)).1 ?_
    rw [List.getElem?_map, List.getElem?_map, hi, hj, Option.map_some, Option.map_some, own, own']
  together t ht t' ht' asks asks' := by
    obtain ⟨context, asks⟩ := Option.isSome_iff_exists.1 asks
    obtain ⟨context', asks'⟩ := Option.isSome_iff_exists.1 asks'
    obtain ⟨g, hg, mem⟩ := exists_mem_ofTypes ht asks
    rw [asks, asks', Option.some.injEq]
    constructor
    · rintro ⟨g, hg, mem, mem'⟩
      rw [← (mem_testClasses_iff nodup ht asks hg).1 mem]
      exact (mem_testClasses_iff nodup ht' asks' hg).1 mem'
    · rintro rfl
      refine ⟨g, hg, mem, (mem_testClasses_iff nodup ht' asks' hg).2 ?_⟩
      exact (mem_testClasses_iff nodup ht asks hg).1 mem
  declared g hg test htest := declared_of_mem_ofTypes hg htest
  nonempty g hg := testClasses_ne_nil_of_mem_ofTypes hg
  ascends g hg := by
    obtain ⟨context, -, rfl⟩ := List.mem_map.1 hg
    exact (pairwise_sorted (nodup_testClassesOf nodup)).sublist (List.filter_sublist.map _)
  firsts_ascend := pairwise_firsts_ofSorted (pairwise_sorted (nodup_testClassesOf nodup))

/-- The classes of all groups are distinct. No class is thus mapped to two initializers. -/
theorem nodup_flatMap_testClasses (nodup : (types.map (·.name)).Nodup) :
    ((ofTypes types).flatMap (·.testClasses)).Nodup := by
  have contexts := nodup_contexts types
  rw [List.Nodup, List.pairwise_map] at contexts
  refine List.nodup_flatMap.2 ⟨fun g hg => ?_, contexts.imp_of_mem fun hg hg' ne => ?_⟩
  · exact ((isGrouping_ofTypes nodup).ascends g hg).imp String.ne_of_lt
  · intro test htest htest'
    obtain ⟨t, ht, rfl, asks⟩ := declared_of_mem_ofTypes hg htest
    exact ne ((mem_testClasses_iff nodup ht asks hg').1 htest').symm

/-- The groups are the same whatever the order of the types. Only the sorted test classes are looked
at. -/
theorem ofTypes_eq_of_perm {types' : List TypeDecl} (perm : types.Perm types')
    (nodup : (types.map (·.name)).Nodup) : ofTypes types = ofTypes types' :=
  congrArg ofSorted (sorted_eq_of_perm (perm.filterMap _) (nodup_testClassesOf nodup))

end StaticWiring.TestGroup
