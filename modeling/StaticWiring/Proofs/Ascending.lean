import Mathlib.Data.List.Nodup
import StaticWiring.Ascending

/-!
# Equal sets and equal maps

Ascending lists are equal as soon as they have the same members, or the same value at every key. So
the order in which a set or a map has come about cannot be seen.

## Main results

* `Ascending.nodup_insertAll` — a set has each member once.
* `Ascending.eq_of_mem_iff` — sets with the same members are equal.
* `Ascending.eq_of_lookup_eq` — maps with the same values are equal.
* `Ascending.insert_of_mem`, `Ascending.perm_insert`, `Ascending.length_insert_of_not_mem` — a set
  grows by new members only.
-/

namespace StaticWiring.Ascending

variable {α κ ν : Type} [Ord κ]

/-- A list that ascends by a key has each item once. The key is the item itself for sets, and its
first part for maps. -/
theorem nodup_of_ascend_by [Std.ReflOrd κ] (key : α → κ) {xs : List α}
    (h : xs.Pairwise fun a b => compare (key a) (key b) = .lt) : xs.Nodup := by
  refine h.imp ?_
  rintro a b lt rfl
  rw [Std.ReflOrd.compare_self] at lt
  cases lt

/-- Lists that ascend by a key and have the same items are equal. A set is thus determined by its
members, and a map by its entries. -/
theorem eq_of_ascend_by [Std.TransOrd κ] (key : α → κ) {xs ys : List α}
    (hx : xs.Pairwise fun a b => compare (key a) (key b) = .lt)
    (hy : ys.Pairwise fun a b => compare (key a) (key b) = .lt)
    (same : ∀ a, a ∈ xs ↔ a ∈ ys) : xs = ys := by
  have perm := (List.perm_ext_iff_of_nodup (nodup_of_ascend_by key hx)
    (nodup_of_ascend_by key hy)).2 same
  refine perm.eq_of_pairwise (fun a b _ _ lt gt => ?_) hx hy
  exact absurd gt (Std.OrientedCmp.not_lt_of_lt lt)

theorem eq_of_mem_iff [Ord α] [Std.TransOrd α] {set set' : List α} (h : Ascends set)
    (h' : Ascends set') (same : ∀ a, a ∈ set ↔ a ∈ set') : set = set' :=
  eq_of_ascend_by id h h' same

theorem ascends_insertAll [Ord α] [Std.TransOrd α] [Std.LawfulEqOrd α] (as : List α)
    {set : List α} (h : Ascends set) : Ascends (insertAll as set) := by
  unfold insertAll
  induction as generalizing set with
  | nil => exact h
  | cons a as ih => exact ih (ascends_insert h)

/-- A set has each member once. The list that it is made from may repeat them. -/
theorem nodup_insertAll [Ord α] [Std.TransOrd α] [Std.LawfulEqOrd α] (as : List α) :
    (insertAll as []).Nodup :=
  nodup_of_ascend_by id (ascends_insertAll as List.Pairwise.nil)

/-- A set does not change with a member that it has. Repeated requests therefore change nothing. -/
theorem insert_of_mem [Ord α] [Std.TransOrd α] [Std.LawfulEqOrd α] {a : α} {set : List α}
    (h : Ascends set) (member : a ∈ set) : insert a set = set := by
  refine eq_of_mem_iff (ascends_insert h) h fun b => ?_
  rw [mem_insert_iff, or_iff_right_of_imp]
  rintro rfl
  exact member

/-- A new member is one member more. Its place among the others is of no account here. -/
theorem perm_insert [Ord α] [Std.LawfulEqOrd α] {a : α} {set : List α} (new : a ∉ set) :
    (insert a set).Perm (a :: set) := by
  induction set with
  | nil => rfl
  | cons b bs ih =>
    obtain ⟨differs, new⟩ := List.ne_and_not_mem_of_not_mem_cons new
    simp only [insert]
    split
    · rfl
    · next eq => exact (differs (Std.LawfulEqOrd.eq_of_compare eq)).elim
    · exact ((ih new).cons b).trans (List.Perm.swap a b bs)

theorem length_insert_of_not_mem [Ord α] [Std.LawfulEqOrd α] {a : α} {set : List α}
    (new : a ∉ set) : (insert a set).length = set.length + 1 :=
  (perm_insert new).length_eq

/-- An entry of a map is the value at its key. No entry is hidden by another one, since keys are
distinct. -/
theorem mem_iff_lookup [BEq κ] [LawfulBEq κ] [Std.ReflOrd κ] {map : List (κ × ν)}
    (h : KeysAscend map) {key : κ} {value : ν} :
    (key, value) ∈ map ↔ map.lookup key = some value := by
  induction map with
  | nil => simp
  | cons entry rest ih =>
    obtain ⟨first, v⟩ := entry
    obtain ⟨above, ascend⟩ := List.pairwise_cons.1 h
    rw [List.mem_cons, ih ascend, List.lookup_cons]
    by_cases same : key = first
    · subst same
      have absent : rest.lookup key = none := lookup_eq_none_of_lt above
      simp [absent, eq_comm]
    · have differs : (key == first) = false := beq_eq_false_iff_ne.2 same
      simp [differs, same]

theorem eq_of_lookup_eq [BEq κ] [LawfulBEq κ] [Std.TransOrd κ] {map map' : List (κ × ν)}
    (h : KeysAscend map) (h' : KeysAscend map')
    (same : ∀ key, map.lookup key = map'.lookup key) : map = map' := by
  refine eq_of_ascend_by Prod.fst h h' fun entry => ?_
  rw [mem_iff_lookup h, mem_iff_lookup h', same]

end StaticWiring.Ascending
