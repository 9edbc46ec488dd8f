import Mathlib.Data.List.Chain
import Mathlib.Data.List.Nodup
import StaticWiring.Wiring.Resolution

/-!
# The chain of super classes

From a class one goes up to its super class as long as that is described and was not met before. So
the chain ends at a class without described super class, or where the super classes form a cycle.
These properties determine the chain.

## Main definitions

* `ClassPath.superClass?` — the super class of a class, if it is described.
* `ClassPath.IsLineage` — the properties of the chain, the nearest class first.

## Main results

* `ClassPath.isLineage_iff` — exactly one chain has these properties, and it is the one that is
  computed.
-/

namespace StaticWiring.ClassPath

variable {cp : ClassPath} {seen : List String} {t : TypeDecl} {chain other : List TypeDecl}

/-- The super class of a class, if it is described. Interfaces are of no account here. -/
def superClass? (cp : ClassPath) (t : TypeDecl) : Option TypeDecl :=
  t.superType.bind cp.get?

/-- The class `t` and its described super classes, the nearest first. It ends where no class is
described, or where a cycle closes. -/
structure IsLineage (cp : ClassPath) (t : TypeDecl) (chain : List TypeDecl) : Prop where
  /-- The chain begins with the class. -/
  head?_eq : chain.head? = some t
  /-- Each class is followed by its super class. -/
  isChain : chain.IsChain fun u above => cp.superClass? u = some above
  /-- Each class stands in it once. -/
  nodup_names : (chain.map (·.name)).Nodup
  /-- The super class of the last class, if that is described, stands in the chain already. -/
  ends : ∀ last ∈ chain.getLast?, ∀ above, cp.superClass? last = some above →
    above.name ∈ chain.map (·.name)

/-! ### The chain that is computed -/

theorem superClass?_eq_none_of_superType (top : t.superType = none) : cp.superClass? t = none := by
  rw [superClass?, top, Option.bind_none]

theorem superClass?_of_superType {name : String} (super : t.superType = some name) :
    cp.superClass? t = cp.get? name := by
  rw [superClass?, super, Option.bind_some]

theorem head?_lineage (cp : ClassPath) (seen : List String) (t : TypeDecl) :
    (cp.lineage seen t).head? = some t := by
  fun_cases ClassPath.lineage cp seen t <;> rfl

theorem isChain_lineage (cp : ClassPath) (seen : List String) (t : TypeDecl) :
    (cp.lineage seen t).IsChain fun u above => cp.superClass? u = some above := by
  fun_induction ClassPath.lineage cp seen t with
  | case1 | case2 | case3 => exact List.isChain_singleton _
  | case4 seen t name super parent found fresh _ ih =>
    refine List.isChain_cons.2 ⟨fun above habove => ?_, ih⟩
    rw [head?_lineage, Option.mem_some_iff] at habove
    rw [superClass?_of_superType super, found, habove]

/-- No class of the chain was seen before or stands in it twice. The classes seen before are those
that the search came through. -/
theorem nodup_seen_lineage (new : (seen ++ [t.name]).Nodup) :
    (seen ++ (cp.lineage seen t).map (·.name)).Nodup := by
  fun_induction ClassPath.lineage cp seen t with
  | case1 | case2 | case3 => exact new
  | case4 seen t name super parent found fresh _ ih =>
    rw [List.map_cons, List.append_cons]
    refine ih (List.nodup_append.2 ⟨new, List.nodup_singleton _, fun a ha b hb same => ?_⟩)
    rw [List.mem_singleton.1 hb] at same
    exact fresh (List.contains_iff_mem.2 (same ▸ ha))

theorem mem_of_getLast?_lineage (seen : List String) {last above : TypeDecl}
    (hlast : last ∈ (cp.lineage seen t).getLast?) (super : cp.superClass? last = some above) :
    above.name ∈ seen ++ (cp.lineage seen t).map (·.name) := by
  fun_induction ClassPath.lineage cp seen t with
  | case1 seen t top =>
    obtain rfl : t = last := Option.some.inj hlast
    rw [superClass?_eq_none_of_superType top] at super
    cases super
  | case2 seen t name named absent =>
    obtain rfl : t = last := Option.some.inj hlast
    rw [superClass?_of_superType named, absent] at super
    cases super
  | case3 seen t name named parent found known =>
    obtain rfl : t = last := Option.some.inj hlast
    rw [superClass?_of_superType named, found] at super
    obtain rfl := Option.some.inj super
    exact List.contains_iff_mem.1 known
  | case4 seen t name named parent found fresh _ ih =>
    rw [List.map_cons, List.append_cons]
    refine ih ?_
    -- The lineage of the parent is not empty, so the last class is in it.
    have nonempty : cp.lineage (seen ++ [t.name]) parent ≠ [] := by
      intro empty
      have head := head?_lineage cp (seen ++ [t.name]) parent
      rw [empty] at head
      cases head
    rwa [List.getLast?_cons_of_ne_nil nonempty] at hlast

theorem isLineage_lineage (cp : ClassPath) (t : TypeDecl) : cp.IsLineage t (cp.lineage [] t) where
  head?_eq := head?_lineage cp [] t
  isChain := isChain_lineage cp [] t
  nodup_names :=
    have new : ([] ++ [t.name]).Nodup := List.nodup_singleton t.name
    nodup_seen_lineage new
  ends _ hlast _ super := mem_of_getLast?_lineage [] hlast super

/-! ### The chain is determined -/

/-- Of two chains from the same class on, one goes on where the other ends. Every class determines
what can follow it. -/
theorem prefix_or_prefix_of_isChain {first : TypeDecl}
    (h : (first :: chain).IsChain fun u above => cp.superClass? u = some above)
    (h' : (first :: other).IsChain fun u above => cp.superClass? u = some above) :
    chain <+: other ∨ other <+: chain := by
  induction chain generalizing first other with
  | nil => exact .inl List.nil_prefix
  | cons above chain ih =>
    cases other with
    | nil => exact .inr List.nil_prefix
    | cons above' other =>
      obtain ⟨super, h⟩ := List.isChain_cons_cons.1 h
      obtain ⟨super', h'⟩ := List.isChain_cons_cons.1 h'
      obtain rfl : above = above' := Option.some.inj (super.symm.trans super')
      simpa using ih h h'

/-- A chain does not go on where another one ends. It ends for the same reason at the same class. -/
theorem IsLineage.eq_of_prefix (h : cp.IsLineage t chain) (h' : cp.IsLineage t other)
    (within : chain <+: other) : chain = other := by
  obtain ⟨rest, rfl⟩ := within
  cases rest with
  | nil => rw [List.append_nil]
  | cons above rest =>
    cases hlast : chain.getLast? with
    | none =>
      rw [List.getLast?_eq_none_iff] at hlast
      have head := h.head?_eq
      rw [hlast] at head
      cases head
    | some last =>
      have super : cp.superClass? last = some above :=
        (List.isChain_append.1 h'.isChain).2.2 last hlast above rfl
      have nodup := h'.nodup_names
      rw [List.map_append, List.map_cons, List.nodup_append] at nodup
      exact absurd rfl (nodup.2.2 _ (h.ends last hlast above super) _ List.mem_cons_self)

/-- Exactly one chain has the properties of a lineage. Its description may thus be used in place of
the search. -/
theorem isLineage_iff : cp.IsLineage t chain ↔ chain = cp.lineage [] t := by
  refine ⟨fun h => ?_, fun h => h ▸ isLineage_lineage cp t⟩
  have computed := isLineage_lineage cp t
  obtain ⟨above, split⟩ := List.head?_eq_some_iff.1 h.head?_eq
  obtain ⟨above', split'⟩ := List.head?_eq_some_iff.1 computed.head?_eq
  have comparable : chain <+: cp.lineage [] t ∨ cp.lineage [] t <+: chain := by
    have chained := h.isChain
    have chained' := computed.isChain
    rw [split] at chained
    rw [split'] at chained'
    rw [split, split']
    simpa using prefix_or_prefix_of_isChain chained chained'
  rcases comparable with within | within
  · exact h.eq_of_prefix computed within
  · exact (computed.eq_of_prefix h within).symm

end StaticWiring.ClassPath
