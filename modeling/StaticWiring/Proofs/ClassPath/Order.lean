import Mathlib.Data.List.Forall2
import Mathlib.Data.List.Nodup
import StaticWiring.ClassPath

/-!
# The order of a class path

A type of a class path is found by its name, wherever it stands. So class paths that hold the same
types in another order know the same types, also if the hints on each type stand in another order.

## Main definitions

* `TypeDecl.HasSameHints` — the same type with its hints in any order.
* `ClassPath.HasSameHints` — the same types in any order, with their hints in any order.

## Main results

* `ClassPath.get?_name_of_mem` — a type of a class path is found by its name.
* `ClassPath.HasSameHints.isPresent_eq`, `ClassPath.HasSameHints.kind?_eq` — the order of a class
  path makes no difference to what types are known.
-/

namespace StaticWiring

/-- The same type with its hints in any order. Everything else of the type is the same. -/
def TypeDecl.HasSameHints (t t' : TypeDecl) : Prop :=
  ∃ hints, t.hints.Perm hints ∧ t' = { t with hints }

namespace ClassPath

variable {cp cp' : ClassPath} {t t' : TypeDecl}

/-- A type of the class path is found by its name. Types of a class path have different names. -/
theorem get?_name_of_mem (member : t ∈ cp.types) : cp.get? t.name = some t := by
  obtain ⟨s, found⟩ := Option.isSome_iff_exists.1 (contains_iff.2 (List.mem_map_of_mem member))
  rw [found, List.inj_on_of_nodup_map cp.nodup_names (List.mem_of_find?_eq_some found) member
    (name_of_get? found)]

theorem kind?_eq_some_iff {name : String} {kind : TypeKind} :
    cp.kind? name = some kind ↔ ∃ t ∈ cp.types, t.name = name ∧ t.kind = kind := by
  rw [kind?, Option.map_eq_some_iff]
  constructor
  · rintro ⟨t, found, kind⟩
    exact ⟨t, List.mem_of_find?_eq_some found, name_of_get? found, kind⟩
  · rintro ⟨t, member, rfl, kind⟩
    exact ⟨t, get?_name_of_mem member, kind⟩

/-- A type with a kind is described. Kinds are asked for where the description itself is not needed.
-/
theorem isSome_kind? (name : String) : (cp.kind? name).isSome = cp.contains name := by
  rw [kind?, Option.isSome_map, contains]

/-- The same types in any order, with their hints in any order. It is what a run has to be
insensitive to. -/
def HasSameHints (cp cp' : ClassPath) : Prop :=
  ∃ types, cp.types.Perm types ∧ List.Forall₂ TypeDecl.HasSameHints types cp'.types

namespace HasSameHints

theorem exists_of_mem (h : cp.HasSameHints cp') (member : t ∈ cp.types) :
    ∃ t' ∈ cp'.types, t.HasSameHints t' := by
  obtain ⟨types, perm, same⟩ := h
  obtain ⟨i, inside, rfl⟩ := List.getElem_of_mem (perm.mem_iff.1 member)
  have inside' : i < cp'.types.length := same.length_eq ▸ inside
  exact ⟨cp'.types[i], List.getElem_mem _, same.get inside inside'⟩

theorem exists_of_mem' (h : cp.HasSameHints cp') (member : t' ∈ cp'.types) :
    ∃ t ∈ cp.types, t.HasSameHints t' := by
  obtain ⟨types, perm, same⟩ := h
  obtain ⟨i, inside, rfl⟩ := List.getElem_of_mem member
  have inside' : i < types.length := same.length_eq ▸ inside
  exact ⟨types[i], perm.mem_iff.2 (List.getElem_mem _), same.get inside' inside⟩

theorem kind?_eq (h : cp.HasSameHints cp') (name : String) : cp.kind? name = cp'.kind? name := by
  refine Option.ext fun kind => ?_
  rw [kind?_eq_some_iff, kind?_eq_some_iff]
  constructor
  · rintro ⟨t, member, named, kind⟩
    obtain ⟨_, member', hints, -, rfl⟩ := h.exists_of_mem member
    exact ⟨_, member', named, kind⟩
  · rintro ⟨t', member', named, kind⟩
    obtain ⟨t, member, hints, -, rfl⟩ := h.exists_of_mem' member'
    exact ⟨t, member, named, kind⟩

theorem isPresent_eq (h : cp.HasSameHints cp') (name : String) :
    cp.isPresent name = cp'.isPresent name := by
  have described : cp.contains name = cp'.contains name := by
    rw [← isSome_kind?, ← isSome_kind?, h.kind?_eq]
  rw [isPresent, isPresent, described]

end HasSameHints

end ClassPath

end StaticWiring
