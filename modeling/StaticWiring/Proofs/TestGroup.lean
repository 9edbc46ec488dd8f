import Mathlib.Data.List.Nodup
import StaticWiring.Proofs.Text.Numbered
import StaticWiring.TestGroup

/-!
# The initializers of test classes

The initializers of groups with several test classes are numbered and differ from each other. The
initializer of a group with a single test class is named for the class without its package, with
underscores around nested classes, so that test classes of different packages may share one. It
never has the name of a numbered initializer or of the class that maps test classes to contexts.

## Main definitions

* `TestGroup.flatName` — the name of a test class as its initializer has it.
* `TestGroup.onlyTest?` — the test class of a group with a single one.

## Main results

* `TestGroup.declared_of_mem_ofTypes` — the classes of a group ask for its context.
* `TestGroup.nodup_named_iff` — when the initializers of all groups have different names.
-/

namespace StaticWiring.TestGroup

variable {g : TestGroup} {gs : List TestGroup} {types : List TypeDecl} {test s : String}
  {number : Nat}

/-! ### Groups -/

theorem mem_testClassesOf {context : TestContext} :
    (test, context) ∈ testClassesOf types ↔
      ∃ t ∈ types, t.name = test ∧ t.testContext = some context := by
  simp only [testClassesOf, List.mem_filterMap, Option.map_eq_some_iff, Prod.mk.injEq]
  constructor
  · rintro ⟨t, ht, c, hc, rfl, rfl⟩
    exact ⟨t, ht, rfl, hc⟩
  · rintro ⟨t, ht, rfl, hc⟩
    exact ⟨t, ht, context, hc, rfl, rfl⟩

theorem mem_sorted {tests : List (String × TestContext)} {entry : String × TestContext} :
    entry ∈ sorted tests ↔ entry ∈ tests :=
  (List.mergeSort_perm tests _).mem_iff

/-- A test class of a group asks for the context of the group. The group has the context from one of
its classes, and the others ask for the same one. -/
theorem declared_of_mem_ofTypes (hg : g ∈ ofTypes types) (ht : test ∈ g.testClasses) :
    ∃ t ∈ types, t.name = test ∧ t.testContext = some g.context := by
  obtain ⟨context, -, rfl⟩ := List.mem_map.1 hg
  obtain ⟨entry, hentry, rfl⟩ := List.mem_map.1 ht
  obtain ⟨hentry, same⟩ := List.mem_filter.1 hentry
  have entries := mem_testClassesOf.1 (mem_sorted.1 hentry)
  rwa [eq_of_beq same] at entries

/-- Every test class is in a group. It is the group of the context that the class asks for. -/
theorem exists_mem_ofTypes {t : TypeDecl} {context : TestContext} (ht : t ∈ types)
    (asks : t.testContext = some context) : ∃ g ∈ ofTypes types, t.name ∈ g.testClasses := by
  have entry : (t.name, context) ∈ sorted (testClassesOf types) :=
    mem_sorted.2 (mem_testClassesOf.2 ⟨t, ht, rfl, asks⟩)
  refine ⟨_, List.mem_map.2 ⟨context, ?_, rfl⟩, List.mem_map.2 ⟨(t.name, context), ?_, rfl⟩⟩
  · exact List.mem_eraseDups.2 (List.mem_map_of_mem entry)
  · exact List.mem_filter.2 ⟨entry, beq_self_eq_true _⟩

/-- Every group has a test class. A context only comes up with a class that asks for it. -/
theorem testClasses_ne_nil_of_mem_ofSorted {tests : List (String × TestContext)}
    (hg : g ∈ ofSorted tests) : g.testClasses ≠ [] := by
  obtain ⟨context, hcontext, rfl⟩ := List.mem_map.1 hg
  obtain ⟨entry, hentry, rfl⟩ := List.mem_map.1 (List.mem_eraseDups.1 hcontext)
  refine List.ne_nil_of_mem (a := entry.1) (List.mem_map.2 ⟨entry, ?_, rfl⟩)
  exact List.mem_filter.2 ⟨hentry, beq_self_eq_true _⟩

theorem testClasses_ne_nil_of_mem_ofTypes (hg : g ∈ ofTypes types) : g.testClasses ≠ [] :=
  testClasses_ne_nil_of_mem_ofSorted hg

/-! ### Names -/

/-- The name of a test class as its initializer has it. Dots stand between an outer class and a
nested one, and are replaced. -/
def flatName (test : String) : String :=
  Text.replace '.' '_' (TypeName.sourceShortName test)

/-- What the name of an initializer has behind that of its test class. It ends with a letter, so
that no numbered name can have it. -/
def suffix : String :=
  "ContextInitializer"

/-- The test class of a group with a single one. Larger groups have none. -/
def onlyTest? (g : TestGroup) : Option String :=
  match g.testClasses with
  | [test] => some test
  | _ => none

/-- The test classes of groups with a single one. Only these initializers have names that depend on
a class. -/
def onlyTests (gs : List TestGroup) : List String :=
  gs.filterMap onlyTest?

theorem onlyTests_cons_of_some (only : g.onlyTest? = some test) (gs : List TestGroup) :
    onlyTests (g :: gs) = test :: onlyTests gs :=
  List.filterMap_cons_some only

theorem onlyTests_cons_of_none (several : g.onlyTest? = none) (gs : List TestGroup) :
    onlyTests (g :: gs) = onlyTests gs :=
  List.filterMap_cons_none several

theorem isBare_suffix (s : String) : Text.IsBare (s ++ suffix) :=
  Text.isBare_append (by decide) s

theorem isBare_rootName : Text.IsBare rootName := by
  decide

theorem append_suffix_ne_rootName (s : String) : s ++ suffix ≠ rootName := by
  intro h
  have ends : suffix.toList <:+ rootName.toList := by
    rw [← h, String.toList_append]
    exact List.suffix_append _ _
  exact absurd ends (by decide)

theorem append_suffix_inj {s s' : String} (h : s ++ suffix = s' ++ suffix) : s = s' := by
  have lists := congrArg String.toList h
  rw [String.toList_append, String.toList_append] at lists
  exact String.toList_injective (List.append_cancel_right lists)

/-- The initializer of a group is named for its only test class, or numbered if there are several
ones. -/
theorem className_cases (nonempty : g.testClasses ≠ []) :
    (∃ test, g.onlyTest? = some test ∧ g.testClasses.length = 1 ∧
      ∀ number, g.className number = flatName test ++ suffix) ∨
    g.onlyTest? = none ∧ 1 < g.testClasses.length ∧
      ∀ number, g.className number = rootName ++ toString number := by
  cases htests : g.testClasses with
  | nil => exact absurd htests nonempty
  | cons first rest =>
    cases rest with
    | nil =>
      refine .inl ⟨first, by simp only [onlyTest?, htests], rfl, fun number => ?_⟩
      simp only [className, htests]
      rfl
    | cons second rest =>
      refine .inr ⟨by simp only [onlyTest?, htests], by simp, fun number => ?_⟩
      simp only [className, htests]

/-! ### The names of all initializers -/

theorem map_fst_named (number : Nat) (gs : List TestGroup) :
    (named number gs).map Prod.fst = gs := by
  induction gs generalizing number with
  | nil => rfl
  | cons g gs ih => rw [named, List.map_cons, ih]

theorem fst_mem_of_mem_named {entry : TestGroup × String} (h : entry ∈ named number gs) :
    entry.1 ∈ gs := by
  rw [← map_fst_named number gs]
  exact List.mem_map_of_mem h

/-- The name of an initializer is that of a single test class or numbered from the first number
on. -/
theorem mem_named (nonempty : ∀ g ∈ gs, g.testClasses ≠ []) {name : String}
    (h : name ∈ (named number gs).map Prod.snd) :
    (∃ test ∈ onlyTests gs, name = flatName test ++ suffix) ∨
      ∃ k, number ≤ k ∧ name = rootName ++ toString k := by
  induction gs generalizing number with
  | nil => exact absurd h List.not_mem_nil
  | cons g gs ih =>
    rw [named, List.map_cons] at h
    have rest := @ih (if g.testClasses.length > 1 then number + 1 else number)
      fun g hg => nonempty g (List.mem_cons_of_mem _ hg)
    rcases className_cases (nonempty g List.mem_cons_self) with
      ⟨test, only, -, className⟩ | ⟨several, -, className⟩
    · rw [onlyTests_cons_of_some only]
      rcases List.mem_cons.1 h with rfl | h
      · exact .inl ⟨test, List.mem_cons_self, className number⟩
      · refine (rest h).imp ?_ ?_
        · rintro ⟨test', htest', rfl⟩
          exact ⟨test', List.mem_cons_of_mem _ htest', rfl⟩
        · rintro ⟨k, hk, rfl⟩
          exact ⟨k, by split at hk <;> omega, rfl⟩
    · rw [onlyTests_cons_of_none several]
      rcases List.mem_cons.1 h with rfl | h
      · exact .inr ⟨number, Nat.le_refl _, className number⟩
      · refine (rest h).imp_right ?_
        rintro ⟨k, hk, rfl⟩
        exact ⟨k, by split at hk <;> omega, rfl⟩

theorem flatName_mem_named (nonempty : ∀ g ∈ gs, g.testClasses ≠ []) (ht : test ∈ onlyTests gs) :
    flatName test ++ suffix ∈ (named number gs).map Prod.snd := by
  induction gs generalizing number with
  | nil => exact absurd ht List.not_mem_nil
  | cons g gs ih =>
    have rest (ht : test ∈ onlyTests gs) (number : Nat) :=
      @ih number (fun g hg => nonempty g (List.mem_cons_of_mem _ hg)) ht
    rw [named, List.map_cons]
    rcases className_cases (nonempty g List.mem_cons_self) with
      ⟨test', only, -, className⟩ | ⟨several, -, -⟩
    · rw [onlyTests_cons_of_some only] at ht
      rcases List.mem_cons.1 ht with rfl | ht
      · rw [className]
        exact List.mem_cons_self
      · exact List.mem_cons_of_mem _ (rest ht _)
    · rw [onlyTests_cons_of_none several] at ht
      exact List.mem_cons_of_mem _ (rest ht _)

/-- The initializers of all groups have different names exactly if the test classes without
companions have, without their packages. -/
theorem nodup_named_iff (nonempty : ∀ g ∈ gs, g.testClasses ≠ []) :
    ((named number gs).map Prod.snd).Nodup ↔ ((onlyTests gs).map flatName).Nodup := by
  induction gs generalizing number with
  | nil => simp [named, onlyTests]
  | cons g gs ih =>
    have others : ∀ g ∈ gs, g.testClasses ≠ [] := fun g hg => nonempty g (List.mem_cons_of_mem _ hg)
    rw [named, List.map_cons, List.nodup_cons, ih others]
    rcases className_cases (nonempty g List.mem_cons_self) with
      ⟨test, only, -, className⟩ | ⟨several, length, className⟩
    · -- A flat name with its suffix is no numbered name, so only single tests can clash with it.
      have fresh : flatName test ++ suffix ∉ (named (if g.testClasses.length > 1 then number + 1
          else number) gs).map Prod.snd ↔ flatName test ∉ (onlyTests gs).map flatName := by
        refine not_congr ⟨fun h => ?_, fun h => ?_⟩
        · rcases mem_named others h with ⟨test', htest', same⟩ | ⟨k, -, same⟩
          · rw [append_suffix_inj same]
            exact List.mem_map_of_mem htest'
          · exact absurd same.symm (Text.numbered_ne_of_isBare (isBare_suffix _))
        · obtain ⟨test', htest', same⟩ := List.mem_map.1 h
          rw [← same]
          exact flatName_mem_named others htest'
      simp only [className]
      rw [fresh, onlyTests_cons_of_some only, List.map_cons, List.nodup_cons]
    · have fresh : rootName ++ toString number ∉ (named (if g.testClasses.length > 1 then number + 1
          else number) gs).map Prod.snd := by
        intro h
        rcases mem_named others h with ⟨test', -, same⟩ | ⟨k, hk, same⟩
        · exact absurd same (Text.numbered_ne_of_isBare (isBare_suffix _))
        · have := (Text.numbered_inj isBare_rootName isBare_rootName same).2
          rw [if_pos length] at hk
          omega
      simp only [className]
      rw [and_iff_right fresh, onlyTests_cons_of_none several]

end StaticWiring.TestGroup
