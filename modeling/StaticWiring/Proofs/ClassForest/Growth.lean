import StaticWiring.Proofs.ClassForest.Distribution
import StaticWiring.Proofs.TestGroup

/-!
# Forests that grow by contexts

The contexts of tests are added to one forest, one behind the other. A new context leaves the
registrations of earlier ones as they are. Its forks are numbered behind the name of its
initializer, so that the classes of several contexts have different names as soon as their
initializers do.

## Main definitions

* `ClassForest.Continues` — the classes of a forest stay in a larger one.
* `ClassForest.contextNames` — the names of an initializer and its forks.
* `ClassForest.IsContextName` — the names that initializers of tests have.

## Main results

* `ClassForest.registered_distribute_of_lt`, `ClassForest.registered_modify` — earlier registrations
  stay as they are.
* `ClassForest.nodup_contextNames_iff` — when the classes of several contexts have different names.
-/

namespace StaticWiring.ClassForest

variable {f between grown : ClassForest} {i : Nat}

/-! ### Classes that stay -/

theorem get?_modify (f : ClassForest) (j : Nat) (change : GeneratedClass → GeneratedClass)
    (i : Nat) :
    (f.modify j change).get? i = (f.get? i).map fun c => if j = i then change c else c := by
  rw [get?, modify, List.getElem?_modify, get?]
  cases f.classes[i]? with
  | none => rfl
  | some c => split <;> rfl

theorem get?_modify_of_ne {j : Nat} (ne : j ≠ i) (change : GeneratedClass → GeneratedClass) :
    (f.modify j change).get? i = f.get? i :=
  List.getElem?_modify_ne _ _ ne

/-- The classes of a forest stay where they are in a larger one, up to the first class and to
documentation. -/
structure Continues (grown f : ClassForest) : Prop where
  /-- The package stays. -/
  package_eq : grown.package = f.package
  /-- A class behind the first one stays. -/
  get?_of_pos : ∀ k c, 0 < k → f.get? k = some c → ∃ doc, grown.get? k = some { c with doc }

theorem Continues.trans (h : grown.Continues between) (h' : between.Continues f) :
    grown.Continues f where
  package_eq := h.package_eq.trans h'.package_eq
  get?_of_pos k c positive hc := by
    obtain ⟨doc, hc⟩ := h'.get?_of_pos k c positive hc
    obtain ⟨doc', hc⟩ := h.get?_of_pos k _ positive hc
    exact ⟨doc', hc⟩

theorem continues_distribute (f : ClassForest) (limit : Nat) (parent : Option Nat) (name : String)
    (ws : List Wiring) : (f.distribute limit parent name ws).Continues f where
  package_eq := rfl
  get?_of_pos k c _ hc := by
    have hk : k < f.size := (List.getElem?_eq_some_iff.1 hc).1
    exact ⟨c.doc, (get?_distribute_of_lt hk limit parent name ws).trans hc⟩

theorem continues_modify_doc (f : ClassForest) (i : Nat) (doc : Option String) :
    (f.modify i fun c => { c with doc }).Continues f where
  package_eq := rfl
  get?_of_pos k c _ hc := by
    rw [get?_modify, hc, Option.map_some]
    split
    · exact ⟨doc, rfl⟩
    · exact ⟨c.doc, rfl⟩

theorem continues_modify_zero (f : ClassForest) (change : GeneratedClass → GeneratedClass) :
    (f.modify 0 change).Continues f where
  package_eq := rfl
  get?_of_pos _ c positive hc :=
    ⟨c.doc, (get?_modify_of_ne (Nat.ne_of_lt positive) change).trans hc⟩

/-! ### Registrations of earlier contexts -/

theorem forksOf_contextClasses {limit position : Nat} {parent : Option Nat} {name : String}
    {ws : List Wiring} (hi : i ≠ position) :
    (contextClasses limit position parent name ws).filter
      (fun c => c.role = .fork && c.parent == some i) = [] := by
  refine List.filter_eq_nil_iff.2 fun c hc => ?_
  rcases List.mem_cons.1 hc with rfl | hc
  · simp
  · obtain ⟨entry, -, rfl⟩ := List.mem_map.1 hc
    simp [Ne.symm hi]

theorem registered_distribute_of_lt (hi : i < f.size) (limit : Nat) (parent : Option Nat)
    (name : String) (ws : List Wiring) :
    (f.distribute limit parent name ws).registered i = f.registered i := by
  have behind : (f.distribute limit parent name ws).forksOf i = f.forksOf i := by
    rw [forksOf, classes_distribute, List.drop_append_of_le_length hi, List.filter_append,
      forksOf_contextClasses (Nat.ne_of_lt hi), List.append_nil, forksOf]
  rw [registered, get?_distribute_of_lt hi, behind, registered]

/-- A change that touches neither the registrations nor the place of a class. A change of the
documentation is one. -/
structure KeepsWirings (change : GeneratedClass → GeneratedClass) : Prop where
  /-- The registrations stay. -/
  wirings : ∀ c, (change c).wirings = c.wirings
  /-- It stays a fork or none. -/
  role : ∀ c, (change c).role = c.role
  /-- The class that it belongs to stays. -/
  parent : ∀ c, (change c).parent = c.parent

theorem flatMap_wirings_modify {change : GeneratedClass → GeneratedClass}
    (keeps : KeepsWirings change) (p : GeneratedClass → Bool)
    (hp : ∀ c, p (change c) = p c) (cs : List GeneratedClass) (j : Nat) :
    ((cs.modify j change).filter p).flatMap (·.wirings) = (cs.filter p).flatMap (·.wirings) := by
  induction cs generalizing j with
  | nil => cases j <;> rfl
  | cons c cs ih =>
    cases j with
    | zero =>
      rw [List.modify_zero_cons, List.filter_cons, List.filter_cons, hp]
      split
      · rw [List.flatMap_cons, List.flatMap_cons, keeps.wirings]
      · rfl
    | succ j =>
      rw [List.modify_succ_cons, List.filter_cons, List.filter_cons]
      split
      · rw [List.flatMap_cons, List.flatMap_cons, ih]
      · exact ih j

theorem registered_modify {change : GeneratedClass → GeneratedClass} (keeps : KeepsWirings change)
    (j i : Nat) : (f.modify j change).registered i = f.registered i := by
  have here : ((f.modify j change).get? i).toList.flatMap (·.wirings) =
      (f.get? i).toList.flatMap (·.wirings) := by
    rw [get?_modify]
    cases f.get? i with
    | none => rfl
    | some c =>
      rw [Option.map_some]
      split
      · simp [keeps.wirings]
      · rfl
  have behind : ((f.modify j change).forksOf i).flatMap (·.wirings) =
      (f.forksOf i).flatMap (·.wirings) := by
    rw [forksOf, modify, forksOf]
    rcases Nat.lt_or_ge j (i + 1) with hj | hj
    · rw [List.drop_modify_of_lt _ _ _ _ hj]
    · rw [List.drop_modify_of_ge _ _ _ _ hj]
      exact flatMap_wirings_modify keeps _ (fun c => by rw [keeps.role, keeps.parent]) _ _
  rw [registered, List.flatMap_append, here, behind, ← List.flatMap_append, registered]

/-- A change of an earlier class does not touch the registrations of a later one. Its forks stand
behind it, and so are later ones as well. -/
theorem registered_modify_of_lt {j : Nat} (hj : j < i) (change : GeneratedClass → GeneratedClass) :
    (f.modify j change).registered i = f.registered i := by
  have here := get?_modify_of_ne (f := f) (Nat.ne_of_lt hj) change
  have behind : (f.modify j change).forksOf i = f.forksOf i := by
    rw [forksOf, modify, List.drop_modify_of_lt _ _ _ _ (by omega), forksOf]
  rw [registered, here, behind, registered]

/-! ### The names of the classes -/

/-- The names of an initializer and of so many forks. Forks are numbered from one, in the order in
which they were added. -/
def contextNames (name : String) (count : Nat) : List String :=
  name :: (List.range count).map fun n => forkName name (n + 1)

theorem map_name_forks (parent : Nat) (name : String) (pieces : List (List Wiring)) :
    (forks parent name pieces).map (·.name) =
      (List.range pieces.length).map fun n => forkName name (n + 1) := by
  have numbers : pieces.zipIdx.map Prod.snd = List.range pieces.length := by
    rw [List.zipIdx_map_snd, List.range_eq_range']
  rw [← numbers, forks, List.map_map, List.map_map]
  rfl

theorem map_name_contextClasses (limit position : Nat) (parent : Option Nat) (name : String)
    (ws : List Wiring) :
    (contextClasses limit position parent name ws).map (·.name) =
      contextNames name (chunks limit ws).tail.length := by
  rw [contextClasses, List.map_cons, map_name_forks, contextNames]

/-- The name is one that initializers of tests have. The names of tests end in a suffix, and the
others in a number. -/
def IsContextName (name : String) : Prop :=
  (∃ s, name = s ++ TestGroup.suffix) ∨ ∃ k : Nat, name = TestGroup.rootName ++ toString k

theorem isContextName_of_mem_named {gs : List TestGroup} {number : Nat} {name : String}
    (nonempty : ∀ g ∈ gs, g.testClasses ≠ [])
    (h : name ∈ (TestGroup.named number gs).map Prod.snd) : IsContextName name := by
  rcases TestGroup.mem_named nonempty h with ⟨test, -, rfl⟩ | ⟨k, -, rfl⟩
  · exact .inl ⟨TestGroup.flatName test, rfl⟩
  · exact .inr ⟨k, rfl⟩

theorem isBare_fork (name : String) : Text.IsBare (name ++ "Fork") :=
  Text.isBare_append (by decide) name

theorem append_fork_ne_rootName (name : String) : name ++ "Fork" ≠ TestGroup.rootName := by
  intro h
  have ends : "Fork".toList <:+ TestGroup.rootName.toList := by
    rw [← h, String.toList_append]
    exact List.suffix_append _ _
  exact absurd ends (by decide)

theorem forkName_inj {name name' : String} {n n' : Nat} (h : forkName name n = forkName name' n') :
    name = name' ∧ n = n' := by
  obtain ⟨same, rfl⟩ := Text.numbered_inj (isBare_fork name) (isBare_fork name') h
  have lists := congrArg String.toList same
  rw [String.toList_append, String.toList_append] at lists
  exact ⟨String.toList_injective (List.append_cancel_right lists), rfl⟩

theorem forkName_ne_rootName (name : String) (n : Nat) : forkName name n ≠ TestGroup.rootName :=
  Text.numbered_ne_of_isBare TestGroup.isBare_rootName

/-- No initializer has the name of a fork. The name of a fork has its own ending, which neither form
can have. -/
theorem IsContextName.ne_forkName {name other : String} (h : IsContextName name) (n : Nat) :
    name ≠ forkName other n := by
  rcases h with ⟨s, rfl⟩ | ⟨k, rfl⟩
  · exact (Text.numbered_ne_of_isBare (TestGroup.isBare_suffix s)).symm
  · intro same
    have stems := (Text.numbered_inj TestGroup.isBare_rootName (isBare_fork other) same).1
    exact append_fork_ne_rootName other stems.symm

theorem IsContextName.ne_rootName {name : String} (h : IsContextName name) :
    name ≠ TestGroup.rootName := by
  rcases h with ⟨s, rfl⟩ | ⟨k, rfl⟩
  · exact TestGroup.append_suffix_ne_rootName s
  · exact Text.numbered_ne_of_isBare TestGroup.isBare_rootName

theorem mem_contextNames {name x : String} {count : Nat} (h : x ∈ contextNames name count) :
    x = name ∨ ∃ n, x = forkName name n := by
  rcases List.mem_cons.1 h with rfl | h
  · exact .inl rfl
  · obtain ⟨n, -, rfl⟩ := List.mem_map.1 h
    exact .inr ⟨n + 1, rfl⟩

theorem nodup_contextNames {name : String} (h : IsContextName name) (count : Nat) :
    (contextNames name count).Nodup := by
  refine List.nodup_cons.2 ⟨fun mem => ?_, ?_⟩
  · obtain ⟨n, -, same⟩ := List.mem_map.1 mem
    exact h.ne_forkName _ same.symm
  · refine List.nodup_range.map fun m n same => ?_
    have := (forkName_inj same).2
    omega

theorem disjoint_contextNames {name name' : String} (h : IsContextName name)
    (h' : IsContextName name') (ne : name ≠ name') (count count' : Nat) :
    (contextNames name count).Disjoint (contextNames name' count') := by
  intro x hx hx'
  rcases mem_contextNames hx with rfl | ⟨n, rfl⟩
  · rcases mem_contextNames hx' with same | ⟨n', same⟩
    · exact ne same
    · exact h.ne_forkName n' same
  · rcases mem_contextNames hx' with same | ⟨n', same⟩
    · exact h'.ne_forkName n same.symm
    · exact ne (forkName_inj same).1

/-- The classes of several contexts have different names, and none that of the class which maps test
classes to contexts, exactly if their initializers have different names. -/
theorem nodup_contextNames_iff {contexts : List (String × Nat)}
    (h : ∀ context ∈ contexts, IsContextName context.1) :
    (TestGroup.rootName :: contexts.flatMap fun c => contextNames c.1 c.2).Nodup ↔
      (contexts.map Prod.fst).Nodup := by
  have fresh : TestGroup.rootName ∉ contexts.flatMap fun c => contextNames c.1 c.2 := by
    intro mem
    obtain ⟨context, hcontext, mem⟩ := List.mem_flatMap.1 mem
    rcases mem_contextNames mem with same | ⟨n, same⟩
    · exact (h context hcontext).ne_rootName same.symm
    · exact forkName_ne_rootName _ _ same.symm
  rw [List.nodup_cons, and_iff_right fresh, List.nodup_flatMap, List.Nodup, List.pairwise_map]
  constructor
  · rintro ⟨-, disjoint⟩
    refine disjoint.imp fun {a b} apart same => ?_
    exact apart List.mem_cons_self (same ▸ List.mem_cons_self)
  · intro distinct
    refine ⟨fun context hcontext => nodup_contextNames (h context hcontext) _, ?_⟩
    refine distinct.imp_of_mem fun {a b} ha hb ne => ?_
    exact disjoint_contextNames (h a ha) (h b hb) ne _ _

end StaticWiring.ClassForest
