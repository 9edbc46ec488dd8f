import Mathlib.Logic.Relation
import Mathlib.Order.Lattice.Nat
import StaticWiring.ClassPath

/-!
# The hierarchy of types

A type extends its super class and implements its interfaces, and these links lead on from one
described type to the next; they may form cycles. The distance of a type is the number of links on a
shortest way to it. The super types of a type are found level by level: all types up to some number
of links are known before a type beyond them is.

## Main definitions

* `ClassPath.Extends` — one link.
* `ClassPath.IsAbove`, `ClassPath.distance` — ways of so many links, and the length of a shortest
  one.
* `ClassPath.ListsAbove` — the types that are reached, each once, the nearest first.
* `ClassPath.Surveys` — what is known on the way through a level.

## Main results

* `ClassPath.listsAbove_reach` — the types that are reached are listed.
* `ClassPath.supertypes_listed` — the super types of a type, and what can be assigned to them.
-/

namespace StaticWiring.ClassPath

variable {cp : ClassPath} {root name super : String} {seen near far queue : List String}
  {k level : Nat}

/-! ### Links and ways -/

/-- A described type extends or implements another one itself. Whether the other type is described
as well does not matter. -/
def Extends (cp : ClassPath) (name super : String) : Prop :=
  ∃ t, cp.get? name = some t ∧ (t.superType = some super ∨ super ∈ t.interfaces)

/-- A way of so many links leads from the root to a type. The hierarchy may have cycles, so that
there can be ways of many lengths to the same type. -/
inductive IsAbove (cp : ClassPath) (root : String) : Nat → String → Prop
  /-- The root is above itself. -/
  | refl : IsAbove cp root 0 root
  /-- One more link. -/
  | tail {k : Nat} {name super : String} (above : IsAbove cp root k name)
    (link : cp.Extends name super) : IsAbove cp root (k + 1) super

/-- The number of links on a shortest way from the root to a type above it. It is zero if there is
no way at all, and is only used for types above. -/
noncomputable def distance (cp : ClassPath) (root name : String) : Nat :=
  sInf {k | cp.IsAbove root k name}

/-- At most so many links lead from the root to a type. Levels are what a search in breadth goes
through. -/
def IsWithin (cp : ClassPath) (root : String) (level : Nat) (name : String) : Prop :=
  ∃ k ≤ level, cp.IsAbove root k name

/-- The list holds the types above a type, itself included, each once, and the nearest first. Types
of the same distance may stand in any order. -/
structure ListsAbove (cp : ClassPath) (root : String) (names : List String) : Prop where
  /-- The list begins with the type itself. -/
  head?_eq : names.head? = some root
  /-- Each type is listed once. -/
  nodup : names.Nodup
  /-- No type stands in front of a nearer one. -/
  nearest_first : names.Pairwise fun a b => cp.distance root a ≤ cp.distance root b
  /-- Exactly the types are listed that links lead to. -/
  mem_iff : ∀ name, name ∈ names ↔ Relation.ReflTransGen cp.Extends root name

theorem extends_iff_of_get? {t : TypeDecl} (found : cp.get? name = some t) :
    cp.Extends name super ↔ super ∈ t.directSupertypes := by
  simp [Extends, found, TypeDecl.directSupertypes]

theorem not_extends_of_get? (absent : cp.get? name = none) : ¬ cp.Extends name super := by
  simp [Extends, absent]

theorem IsAbove.reflTransGen (above : cp.IsAbove root k name) :
    Relation.ReflTransGen cp.Extends root name := by
  induction above with
  | refl => exact .refl
  | tail _ link ih => exact ih.tail link

theorem eq_of_isAbove_zero (above : cp.IsAbove root 0 name) : name = root := by
  cases above
  rfl

/-! ### Distances -/

theorem IsAbove.isAbove_distance (above : cp.IsAbove root k name) :
    cp.IsAbove root (cp.distance root name) name :=
  Nat.sInf_mem (s := {k | cp.IsAbove root k name}) ⟨k, above⟩

theorem IsWithin.distance_le (within : cp.IsWithin root level name) :
    cp.distance root name ≤ level := by
  obtain ⟨k, bound, above⟩ := within
  exact (Nat.sInf_le above).trans bound

/-- A type that no shorter way leads to is no nearer. Together with a way of that length, it
determines the distance. -/
theorem le_distance (above : cp.IsAbove root k name)
    (none : ∀ j < level, ¬ cp.IsAbove root j name) : level ≤ cp.distance root name := by
  by_contra nearer
  exact none _ (Nat.lt_of_not_le nearer) above.isAbove_distance

theorem IsWithin.mono {level' : Nat} (within : cp.IsWithin root level name)
    (bound : level ≤ level') : cp.IsWithin root level' name := by
  obtain ⟨k, le, above⟩ := within
  exact ⟨k, le.trans bound, above⟩

theorem IsWithin.tail (within : cp.IsWithin root level name) (link : cp.Extends name super) :
    cp.IsWithin root (level + 1) super := by
  obtain ⟨k, le, above⟩ := within
  exact ⟨k + 1, Nat.succ_le_succ le, above.tail link⟩

/-- Beyond the root, a type within a level is one link above a type within the level below. This is
where a new level comes from. -/
theorem IsWithin.cases_tail (within : cp.IsWithin root (level + 1) super) :
    cp.IsWithin root level super ∨
      ∃ name, cp.IsWithin root level name ∧ cp.Extends name super := by
  obtain ⟨k, le, above⟩ := within
  cases above with
  | refl => exact .inl ⟨0, Nat.zero_le _, .refl⟩
  | tail above link => exact .inr ⟨_, ⟨_, Nat.le_of_succ_le_succ le, above⟩, link⟩

/-! ### Level by level -/

/-- The types `near` of a level are still to be met, and so are the types `far` behind them, which
those `seen` on this level extend. -/
structure Surveys (cp : ClassPath) (root : String) (seen : List String) (level : Nat)
    (near far : List String) : Prop where
  /-- Each type is met once. -/
  nodup : seen.Nodup
  /-- The nearest types are met first. -/
  nearest_first : seen.Pairwise fun a b => cp.distance root a ≤ cp.distance root b
  /-- The types up to this level are those that were met or are next. -/
  mem_iff : ∀ name, name ∈ seen ∨ name ∈ near ↔ cp.IsWithin root level name
  /-- The types up to the level below were all met. -/
  below : ∀ k < level, ∀ name, cp.IsWithin root k name → name ∈ seen
  /-- What follows is at most one level further. -/
  far_within : ∀ name ∈ far, cp.IsWithin root (level + 1) name
  /-- What the types that were met extend is not forgotten. -/
  closed : ∀ name ∈ seen, ∀ super, cp.Extends name super →
    super ∈ seen ∨ super ∈ near ∨ super ∈ far

namespace Surveys

theorem start (cp : ClassPath) (root : String) : cp.Surveys root [] 0 [root] [] where
  nodup := List.nodup_nil
  nearest_first := .nil
  mem_iff name := by
    rw [or_iff_right List.not_mem_nil, List.mem_singleton]
    constructor
    · rintro rfl
      exact ⟨0, Nat.le_refl 0, .refl⟩
    · rintro ⟨k, le, above⟩
      obtain rfl := Nat.le_zero.1 le
      exact eq_of_isAbove_zero above
  below _ lt := (Nat.not_lt_zero _ lt).elim
  far_within := by simp
  closed := by simp

/-- A type that was met before is passed over. What it extends was entered when it was met first. -/
theorem skip (h : cp.Surveys root seen level (name :: near) far) (known : name ∈ seen) :
    cp.Surveys root seen level near far where
  nodup := h.nodup
  nearest_first := h.nearest_first
  mem_iff other := by
    rw [← h.mem_iff, List.mem_cons]
    constructor
    · exact Or.imp_right .inr
    · rintro (member | rfl | member)
      · exact .inl member
      · exact .inl known
      · exact .inr member
  below := h.below
  far_within := h.far_within
  closed other member super link := by
    rcases h.closed other member super link with member | member | member
    · exact .inl member
    · rcases List.mem_cons.1 member with rfl | member
      · exact .inl known
      · exact .inr (.inl member)
    · exact .inr (.inr member)

/-- A new type is met, and the types that it extends are met behind all others. They may repeat each
other, and are passed over later. -/
theorem visit {supers : List String} (h : cp.Surveys root seen level (name :: near) far)
    (fresh : name ∉ seen) (links : ∀ super, super ∈ supers ↔ cp.Extends name super) :
    cp.Surveys root (seen ++ [name]) level near (far ++ supers) := by
  have within : cp.IsWithin root level name := (h.mem_iff name).1 (.inr List.mem_cons_self)
  constructor
  case nodup =>
    exact List.nodup_append.2 ⟨h.nodup, List.nodup_singleton name, fun a member b single same =>
      fresh (List.mem_singleton.1 single ▸ same ▸ member)⟩
  case nearest_first =>
    refine List.pairwise_append.2 ⟨h.nearest_first, List.pairwise_singleton _ _,
      fun other member b single => ?_⟩
    obtain rfl := List.mem_singleton.1 single
    obtain ⟨k, -, above⟩ := within
    -- All types of the levels below were met, so the new one is not among these.
    have beyond : level ≤ cp.distance root b := by
      refine le_distance above fun j lt above' => fresh ?_
      exact h.below j lt b ⟨j, Nat.le_refl j, above'⟩
    exact ((h.mem_iff other).1 (.inl member)).distance_le.trans beyond
  case mem_iff =>
    intro other
    rw [← h.mem_iff, List.mem_append, List.mem_singleton, List.mem_cons, or_assoc]
  case below =>
    intro k lt other within
    exact List.mem_append_left _ (h.below k lt other within)
  case far_within =>
    intro other member
    rcases List.mem_append.1 member with member | member
    · exact h.far_within other member
    · exact within.tail ((links other).1 member)
  case closed =>
    intro other member super link
    rcases List.mem_append.1 member with member | member
    · have kept := h.closed other member super link
      simp only [List.mem_append, List.mem_cons, List.not_mem_nil, or_false] at kept ⊢
      tauto
    · obtain rfl := List.mem_singleton.1 member
      exact .inr (.inr (List.mem_append_right _ ((links super).2 link)))

/-- Once a level is done, the types up to it were met. Nothing further away was met so far. -/
theorem mem_seen_iff (h : cp.Surveys root seen level [] far) (name : String) :
    name ∈ seen ↔ cp.IsWithin root level name := by
  rw [← h.mem_iff, or_iff_left List.not_mem_nil]

/-- Once a level is done, the next one begins. What was next but one is then next. -/
theorem next (h : cp.Surveys root seen level [] far) :
    cp.Surveys root seen (level + 1) far [] where
  nodup := h.nodup
  nearest_first := h.nearest_first
  mem_iff name := by
    constructor
    · rintro (member | member)
      · exact ((h.mem_seen_iff name).1 member).mono (Nat.le_succ level)
      · exact h.far_within name member
    · intro within
      rcases within.cases_tail with within | ⟨below, within, link⟩
      · exact .inl ((h.mem_seen_iff name).2 within)
      · simpa using h.closed below ((h.mem_seen_iff below).2 within) name link
  below _ lt name within :=
    (h.mem_seen_iff name).2 (within.mono (Nat.le_of_lt_succ lt))
  far_within := by simp
  closed name member super link := by
    have kept := h.closed name member super link
    simp only [List.not_mem_nil, false_or, or_false] at kept ⊢
    exact kept

/-- A type that is next is one of the level, or of the next level if this one is done. The queue
does not tell where a level ends, which is why the levels are found again here. -/
theorem exists_of_cons (h : cp.Surveys root seen level near far)
    (split : near ++ far = name :: queue) :
    ∃ level' near' far', cp.Surveys root seen level' (name :: near') far' ∧
      queue = near' ++ far' := by
  cases near with
  | nil =>
    obtain rfl : far = name :: queue := split
    exact ⟨level + 1, queue, [], h.next, (List.append_nil queue).symm⟩
  | cons first near =>
    obtain ⟨rfl, rfl⟩ := List.cons.inj split
    exact ⟨level, near, far, h, rfl⟩

/-- All levels are gone through. The induction is the one of the search itself, along its queue. -/
theorem exists_reach (h : cp.Surveys root seen level near far) (split : near ++ far = queue) :
    ∃ level', cp.Surveys root (cp.reach seen queue) level' [] [] := by
  fun_induction ClassPath.reach cp seen queue generalizing level near far with
  | case1 seen =>
    obtain ⟨rfl, rfl⟩ := List.append_eq_nil_iff.1 split
    exact ⟨level, h⟩
  | case2 seen name queue known ih =>
    obtain ⟨level, near, far, h, rfl⟩ := h.exists_of_cons split
    exact ih (h.skip (List.contains_iff_mem.1 known)) rfl
  | case3 seen name queue fresh absent _ ih =>
    obtain ⟨level, near, far, h, rfl⟩ := h.exists_of_cons split
    have links (super : String) : super ∈ [] ↔ cp.Extends name super :=
      iff_of_false List.not_mem_nil (not_extends_of_get? absent)
    have visited := h.visit (by simpa using fresh) links
    exact ih visited (by rw [List.append_nil])
  | case4 seen name queue fresh t found _ ih =>
    obtain ⟨level, near, far, h, rfl⟩ := h.exists_of_cons split
    have visited := h.visit (by simpa using fresh) fun super => (extends_iff_of_get? found).symm
    exact ih visited (List.append_assoc ..).symm

/-- Once nothing is left, all types above are listed. A level without types ends all ways. -/
theorem listsAbove (h : cp.Surveys root seen level [] []) : cp.ListsAbove root seen := by
  have first : root ∈ seen := (h.mem_seen_iff root).2 ⟨0, Nat.zero_le _, .refl⟩
  refine ⟨?_, h.nodup, h.nearest_first, fun name => ⟨fun member => ?_, fun reached => ?_⟩⟩
  · cases seen with
    | nil => cases first
    | cons head others =>
      obtain ⟨k, -, above⟩ := (h.mem_seen_iff head).1 List.mem_cons_self
      -- Nothing but the root is as near as the root.
      have nearest : cp.distance root head ≤ cp.distance root root := by
        rcases List.mem_cons.1 first with same | member
        · rw [same]
        · exact List.rel_of_pairwise_cons h.nearest_first member
      have zero : cp.distance root root ≤ 0 := IsWithin.distance_le ⟨0, Nat.le_refl 0, .refl⟩
      have attained := above.isAbove_distance
      rw [Nat.le_zero.1 (nearest.trans zero)] at attained
      rw [List.head?_cons, eq_of_isAbove_zero attained]
  · obtain ⟨k, -, above⟩ := (h.mem_seen_iff name).1 member
    exact above.reflTransGen
  · induction reached with
    | refl => exact first
    | tail _ link member => simpa using h.closed _ member _ link

end Surveys

/-! ### Super types -/

theorem listsAbove_reach (cp : ClassPath) (root : String) :
    cp.ListsAbove root (cp.reach [] [root]) := by
  obtain ⟨level, h⟩ := (Surveys.start cp root).exists_reach rfl
  exact h.listsAbove

/-- The super types of a type are the types above it, the nearest first, with the root of the
hierarchy behind them if it is not among them. A type can be used where one of the types above it
is expected, or the root of the hierarchy. -/
theorem supertypes_listed (cp : ClassPath) (name : String) :
    (∃ above, cp.ListsAbove name above ∧
      cp.supertypes name =
        if "java.lang.Object" ∈ above then above else above ++ ["java.lang.Object"]) ∧
    ∀ required, cp.isAssignable name required = true ↔
      Relation.ReflTransGen cp.Extends name required ∨ required = "java.lang.Object" := by
  have lists := listsAbove_reach cp name
  have listed : cp.supertypes name =
      if "java.lang.Object" ∈ cp.reach [] [name] then cp.reach [] [name]
      else cp.reach [] [name] ++ ["java.lang.Object"] := by
    simp only [supertypes, List.contains_iff_mem]
  refine ⟨⟨_, lists, listed⟩, fun required => ?_⟩
  have member : required ∈ cp.supertypes name ↔
      Relation.ReflTransGen cp.Extends name required ∨ required = "java.lang.Object" := by
    rw [listed, ← lists.mem_iff]
    split
    · next root => exact ⟨.inl, (·.elim id fun same => same ▸ root)⟩
    · rw [List.mem_append, List.mem_singleton]
  rw [isAssignable, Bool.or_eq_true, beq_iff_eq, List.contains_iff_mem, member]
  exact or_iff_right_of_imp fun same => .inl (same ▸ .refl)

end StaticWiring.ClassPath
