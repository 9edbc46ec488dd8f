import Mathlib.Data.List.Basic
import Mathlib.Logic.Relation
import StaticWiring.Definition.Catalog

/-!
# Wider types have more candidates

A type is widened where a type argument is replaced by a wildcard or by the root of the hierarchy,
or where all arguments of a type are erased: those of the type itself or, at any depth, those of one
of its arguments. The name of the type stays, so that a definition can be used for the one type if
and only if it can be used for the other as far as the hierarchy is concerned. The arguments of the
definition's type are compared with those of both types in step, and what widening changes is
compared less strictly: an injection point that asks for a wider type never loses a candidate.

## Main definitions

* `TypeRef.IsUnbounded` — a type argument that every type agrees with.
* `TypeRef.Widens` — one place of a type is widened.
* `Catalog.ArgumentAgrees` — a type argument agrees with another one.

## Main results

* `Catalog.argumentsAgree_iff`, `Catalog.allArgumentsAgree_cons_iff` — how type arguments are
  compared.
* `Catalog.argumentsAgree_of_widens` — widening keeps type arguments in agreement.
* `Catalog.candidates_widen` — definitions are candidates for their own types, and candidates for a
  type are candidates for all wider ones.
-/

open Relation

namespace StaticWiring

/-! ### Wider types -/

namespace TypeRef

/-- The type argument is a wildcard or the root of the hierarchy. Any argument is then accepted in
its place. -/
def IsUnbounded (t : TypeRef) : Prop :=
  t.name = "?" ∨ t.name = "java.lang.Object"

/-- The first type is widened in one place, which leads to the second. Steps may be chained, which
widens a type in several places. -/
inductive Widens : TypeRef → TypeRef → Prop
  /-- The type arguments are erased. -/
  | erase (t : TypeRef) : Widens t (.raw t.name)
  /-- A type argument is replaced by a wildcard or the root of the hierarchy. -/
  | replace {name : String} {before after : List TypeRef} {argument general : TypeRef}
    (unbounded : general.IsUnbounded) :
    Widens ⟨name, before ++ argument :: after⟩ ⟨name, before ++ general :: after⟩
  /-- A type argument is widened itself. -/
  | within {name : String} {before after : List TypeRef} {argument wider : TypeRef}
    (h : Widens argument wider) :
    Widens ⟨name, before ++ argument :: after⟩ ⟨name, before ++ wider :: after⟩

theorem Widens.name_eq {t wider : TypeRef} (h : t.Widens wider) : wider.name = t.name := by
  cases h <;> rfl

end TypeRef

open TypeRef (IsUnbounded Widens)

namespace Catalog

variable {a b b' candidate required wider : TypeRef} {as bs before after : List TypeRef}

/-! ### Type arguments in agreement -/

/-- The type argument `a` of a candidate agrees with the type argument `b` of a required type. The
arguments in turn are compared in the same way, at any depth. -/
def ArgumentAgrees (a b : TypeRef) : Prop :=
  b.IsUnbounded ∨ a.name = b.name ∧ argumentsAgree a b = true

theorem allArgumentsAgree_cons_iff :
    allArgumentsAgree (a :: as) (b :: bs) = true ↔
      ArgumentAgrees a b ∧ allArgumentsAgree as bs = true := by
  simp only [allArgumentsAgree, ArgumentAgrees, IsUnbounded, Bool.and_eq_true, Bool.or_eq_true,
    beq_iff_eq]

/-- Type arguments are compared where both types have some and the types are the same. A raw type is
therefore accepted for every type argument. -/
theorem argumentsAgree_iff :
    argumentsAgree candidate required = true ↔
      candidate.arguments = [] ∨ required.arguments = [] ∨ candidate.name ≠ required.name ∨
        allArgumentsAgree candidate.arguments required.arguments = true := by
  obtain ⟨name, as⟩ := candidate
  obtain ⟨name', bs⟩ := required
  cases as with
  | nil => simp [argumentsAgree]
  | cons a as =>
    cases bs with
    | nil => simp [argumentsAgree]
    | cons b bs => simp [argumentsAgree]

mutual

/-- The arguments of a type agree with themselves. A definition is thus found under exactly its own
type. -/
theorem argumentsAgree_self : (t : TypeRef) → argumentsAgree t t = true
  | ⟨_, []⟩ => rfl
  | ⟨_, a :: as⟩ =>
    argumentsAgree_iff.2 (.inr (.inr (.inr (allArgumentsAgree_self (a :: as)))))

theorem allArgumentsAgree_self : (ts : List TypeRef) → allArgumentsAgree ts ts = true
  | [] => rfl
  | t :: ts =>
    allArgumentsAgree_cons_iff.2
      ⟨.inr ⟨rfl, argumentsAgree_self t⟩, allArgumentsAgree_self ts⟩

end

/-- One argument of a required type may be replaced by one that is less strict. It is the place in
which a required type is widened. -/
theorem allArgumentsAgree_replace (less : ∀ a, ArgumentAgrees a b → ArgumentAgrees a b')
    (agree : allArgumentsAgree as (before ++ b :: after) = true) :
    allArgumentsAgree as (before ++ b' :: after) = true := by
  induction before generalizing as with
  | nil =>
    cases as with
    | nil => cases agree
    | cons a as =>
      obtain ⟨first, others⟩ := allArgumentsAgree_cons_iff.1 agree
      exact allArgumentsAgree_cons_iff.2 ⟨less a first, others⟩
  | cons other before ih =>
    cases as with
    | nil => cases agree
    | cons a as =>
      obtain ⟨first, others⟩ := allArgumentsAgree_cons_iff.1 agree
      exact allArgumentsAgree_cons_iff.2 ⟨first, ih others⟩

theorem argumentsAgree_replace {name : String}
    (less : ∀ a, ArgumentAgrees a b → ArgumentAgrees a b')
    (agree : argumentsAgree candidate ⟨name, before ++ b :: after⟩ = true) :
    argumentsAgree candidate ⟨name, before ++ b' :: after⟩ = true := by
  rw [argumentsAgree_iff] at agree ⊢
  obtain raw | raw | other | agree := agree
  · exact .inl raw
  · simp at raw
  · exact .inr (.inr (.inl other))
  · exact .inr (.inr (.inr (allArgumentsAgree_replace less agree)))

/-- A type whose arguments agree with those of a type agrees with all wider ones. The induction is
on the widening, which reaches into the arguments of arguments. -/
theorem argumentsAgree_of_widens (h : required.Widens wider)
    (agree : argumentsAgree candidate required = true) :
    argumentsAgree candidate wider = true := by
  induction h generalizing candidate with
  | erase t => exact argumentsAgree_iff.2 (.inr (.inl rfl))
  | replace unbounded => exact argumentsAgree_replace (fun _ _ => .inl unbounded) agree
  | within h ih =>
    refine argumentsAgree_replace (fun a agrees => ?_) agree
    rw [ArgumentAgrees, IsUnbounded, h.name_eq]
    exact agrees.imp_right (And.imp_right ih)

/-! ### Candidates -/

theorem isCandidate_self (cp : ClassPath) (t : TypeRef) : isCandidate cp t t = true := by
  simp [isCandidate, ClassPath.isAssignable, argumentsAgree_self]

theorem isCandidate_of_widens {cp : ClassPath} (h : required.Widens wider)
    (usable : isCandidate cp candidate required = true) :
    isCandidate cp candidate wider = true := by
  rw [isCandidate, Bool.and_eq_true] at usable ⊢
  exact ⟨h.name_eq ▸ usable.1, argumentsAgree_of_widens h usable.2⟩

/-- Every definition is a candidate for its own type. The candidates for a type are listed in the
order of the catalog, and if the type is widened in any number of places, all of them are listed
again. -/
theorem candidates_widen (c : Catalog) (cp : ClassPath) :
    (∀ d ∈ c.definitions, d ∈ c.candidates cp d.type) ∧
    ∀ required, (c.candidates cp required).Sublist c.definitions ∧
      ∀ wider, ReflTransGen Widens required wider →
        (c.candidates cp required).Sublist (c.candidates cp wider) := by
  refine ⟨fun d member => List.mem_filter.2 ⟨member, isCandidate_self cp d.type⟩,
    fun required => ⟨List.filter_sublist, fun wider widened => ?_⟩⟩
  have kept (candidate : TypeRef) (usable : isCandidate cp candidate required = true) :
      isCandidate cp candidate wider = true := by
    induction widened with
    | refl => exact usable
    | tail _ h ih => exact isCandidate_of_widens h ih
  exact List.monotone_filter_right _ fun d => kept d.type

end Catalog

/-! ### Stores of two types -/

namespace Sample

/-- A store of lists by their names. Its argument is nested, so that widening has to reach below the
first level. -/
def storeOf (element : TypeRef) : TypeRef :=
  ⟨"app.Store", [⟨"java.util.Map", [.raw "java.lang.String", ⟨"java.util.List", [element]⟩]⟩]⟩

/-- Two stores with different elements. They differ in an argument of an argument only. -/
def storeCatalog : Catalog where
  definitions := [
    { name := "users", type := storeOf (.raw "app.User") },
    { name := "items", type := storeOf (.raw "app.Item") }]
  nodup_names := by decide

theorem widens_storeOf (element : TypeRef) : (storeOf element).Widens (storeOf (.raw "?")) := by
  have list : Widens ⟨"java.util.List", [element]⟩ ⟨"java.util.List", [.raw "?"]⟩ :=
    @Widens.replace _ [] [] element (.raw "?") (.inl rfl)
  have map := @Widens.within "java.util.Map" [.raw "java.lang.String"] [] _ _ list
  exact @Widens.within "app.Store" [] [] _ _ map

end Sample

/-- A store of anything has both stores for candidates, one of users only the first. The general
statement is applied where it adds a candidate. -/
theorem Catalog.candidates_widen_stores :
    (Sample.storeCatalog.candidates {} (Sample.storeOf (.raw "app.User"))).map (·.name) =
      ["users"] ∧
    (Sample.storeCatalog.candidates {} (Sample.storeOf (.raw "?"))).map (·.name) =
      ["users", "items"] ∧
    ReflTransGen Widens (Sample.storeOf (.raw "app.User")) (Sample.storeOf (.raw "?")) ∧
    (Sample.storeCatalog.candidates {} (Sample.storeOf (.raw "app.User"))).Sublist
      (Sample.storeCatalog.candidates {} (Sample.storeOf (.raw "?"))) := by
  have widened := ReflTransGen.single (Sample.widens_storeOf (.raw "app.User"))
  exact ⟨by decide, by decide, widened, (candidates_widen _ _).2 _ |>.2 _ widened⟩

end StaticWiring
