/-!
# Ascending lists as sets and maps

A finite set of ordered values is the list of its members in ascending order, and a finite map the
list of its entries in ascending order of the keys. Adding a member, or changing the value at a key,
keeps the order, so that equal sets and equal maps are equal lists.

## Main definitions

* `Ascending.insert` — a set with one more member.
* `Ascending.upsert` — a map with a changed value at one key.
* `Ascending.insertAll` — a set with further members.
* `Ascending.KeysAscend` — the keys of a map ascend.

## Main results

* `Ascending.mem_insert_iff`, `Ascending.mem_insertAll_iff` — the members after insertions.
* `Ascending.ascends_insert`, `Ascending.keysAscend_upsert` — the order is kept.
* `Ascending.lookup_upsert` — the value at every key after a change.
-/

namespace StaticWiring.Ascending

variable {α κ ν : Type} [Ord α] [Ord κ]

/-! ### Sets -/

/-- The set with the member `a`. A member that is already there is left where it stands, so that the
set stays as it is. -/
def insert (a : α) : List α → List α
  | [] => [a]
  | b :: bs =>
    match compare a b with
    | .lt => a :: b :: bs
    | .eq => b :: bs
    | .gt => b :: insert a bs

/-- The set with all members of a list. The members are inserted one after the other, whatever their
order in the list. -/
def insertAll (as : List α) (set : List α) : List α :=
  as.foldl (fun set a => insert a set) set

theorem mem_insert_iff [Std.LawfulEqOrd α] {a x : α} {set : List α} :
    x ∈ insert a set ↔ x = a ∨ x ∈ set := by
  induction set with
  | nil => simp [insert]
  | cons b bs ih =>
    simp only [insert]
    split
    · simp
    · next h => grind [Std.LawfulEqOrd.eq_of_compare h]
    · grind

theorem mem_insertAll_iff [Std.LawfulEqOrd α] {as : List α} {x : α} {set : List α} :
    x ∈ insertAll as set ↔ x ∈ as ∨ x ∈ set := by
  unfold insertAll
  induction as generalizing set with
  | nil => simp
  | cons a as ih =>
    rw [List.foldl_cons, ih, mem_insert_iff, List.mem_cons]
    grind

/-- The members of a set ascend. No two of them are therefore equal, and sets with the same members
are the same list. -/
def Ascends (set : List α) : Prop :=
  set.Pairwise fun a b => compare a b = .lt

instance (set : List α) : Decidable (Ascends set) :=
  inferInstanceAs (Decidable (set.Pairwise fun a b => compare a b = .lt))

theorem ascends_nil : Ascends ([] : List α) :=
  .nil

theorem ascends_insert [Std.TransOrd α] [Std.LawfulEqOrd α] {a : α} {set : List α}
    (ascends : Ascends set) : Ascends (insert a set) := by
  induction set with
  | nil => exact List.pairwise_singleton _ _
  | cons b bs ih =>
    obtain ⟨above, rest⟩ := List.pairwise_cons.1 ascends
    simp only [insert]
    split
    · next lt =>
      refine List.pairwise_cons.2 ⟨fun x hx => ?_, ascends⟩
      rcases List.mem_cons.1 hx with rfl | hx
      · exact lt
      · exact Std.TransCmp.lt_trans lt (above x hx)
    · exact ascends
    · next gt =>
      refine List.pairwise_cons.2 ⟨fun x hx => ?_, ih rest⟩
      rcases mem_insert_iff.1 hx with rfl | hx
      · exact Std.OrientedCmp.lt_of_gt gt
      · exact above x hx

/-! ### Maps -/

/-- The map with the value `change v` at `key`, where `v` is the value there so far. If the key is
new, `change none` is inserted where the keys still ascend. -/
def upsert (key : κ) (change : Option ν → ν) : List (κ × ν) → List (κ × ν)
  | [] => [(key, change none)]
  | (k, v) :: rest =>
    match compare key k with
    | .lt => (key, change none) :: (k, v) :: rest
    | .eq => (k, change (some v)) :: rest
    | .gt => (k, v) :: upsert key change rest

/-- The keys of a map ascend. Two entries therefore never share a key, and a lookup finds the only
one there is. -/
def KeysAscend (map : List (κ × ν)) : Prop :=
  map.Pairwise fun a b => compare a.1 b.1 = .lt

instance (map : List (κ × ν)) : Decidable (KeysAscend map) :=
  inferInstanceAs (Decidable (map.Pairwise fun a b => compare a.1 b.1 = .lt))

theorem keysAscend_nil : KeysAscend ([] : List (κ × ν)) :=
  .nil

/-- A key below all keys of a map is none of them. It is what allows a lookup to stop at the first
larger key. -/
theorem lookup_eq_none_of_lt [BEq κ] [LawfulBEq κ] [Std.ReflOrd κ] {key : κ} {map : List (κ × ν)}
    (below : ∀ entry ∈ map, compare key entry.1 = .lt) : map.lookup key = none := by
  rw [List.lookup_eq_none_iff]
  intro entry member
  have lt := below entry member
  rw [bne_iff_ne]
  rintro rfl
  rw [Std.ReflOrd.compare_self] at lt
  cases lt

theorem mem_key_upsert [Std.LawfulEqOrd κ] {key k : κ} {change : Option ν → ν}
    {map : List (κ × ν)} :
    k ∈ (upsert key change map).map Prod.fst ↔ k = key ∨ k ∈ map.map Prod.fst := by
  induction map with
  | nil => simp [upsert]
  | cons entry rest ih =>
    simp only [upsert]
    split
    · simp
    · next eq => grind [Std.LawfulEqOrd.eq_of_compare eq]
    · grind

theorem keysAscend_upsert [Std.TransOrd κ] [Std.LawfulEqOrd κ] {key : κ} {change : Option ν → ν}
    {map : List (κ × ν)} (ascend : KeysAscend map) : KeysAscend (upsert key change map) := by
  induction map with
  | nil => exact List.pairwise_singleton _ _
  | cons entry rest ih =>
    obtain ⟨above, ascending⟩ := List.pairwise_cons.1 ascend
    simp only [upsert]
    split
    · next lt =>
      refine List.pairwise_cons.2 ⟨fun e he => ?_, ascend⟩
      rcases List.mem_cons.1 he with rfl | he
      · exact lt
      · exact Std.TransCmp.lt_trans lt (above e he)
    · exact List.pairwise_cons.2 ⟨above, ascending⟩
    · next gt =>
      refine List.pairwise_cons.2 ⟨fun e he => ?_, ih ascending⟩
      rcases mem_key_upsert.1 (List.mem_map_of_mem he) with eq | mem
      · rw [eq]
        exact Std.OrientedCmp.lt_of_gt gt
      · obtain ⟨e', he', eq⟩ := List.mem_map.1 mem
        rw [← eq]
        exact above e' he'

/-- A change at one key changes the value there and no other one. The keys have to ascend, since the
search stops at the first key that is not smaller. -/
theorem lookup_upsert [BEq κ] [LawfulBEq κ] [Std.TransOrd κ] [Std.LawfulEqOrd κ]
    {map : List (κ × ν)} (ascend : KeysAscend map) (key k : κ) (change : Option ν → ν) :
    (upsert key change map).lookup k =
      if k == key then some (change (map.lookup key)) else map.lookup k := by
  induction map with
  | nil => cases h : k == key <;> simp [upsert, List.lookup_cons, h]
  | cons entry rest ih =>
    obtain ⟨first, value⟩ := entry
    obtain ⟨above, ascend⟩ := List.pairwise_cons.1 ascend
    simp only [upsert]
    split
    · next lt =>
      -- The key is smaller than the first one, and the others are larger still.
      have absent : ((first, value) :: rest).lookup key = none := by
        refine lookup_eq_none_of_lt fun e member => ?_
        rcases List.mem_cons.1 member with rfl | member
        · exact lt
        · exact Std.TransCmp.lt_trans lt (above e member)
      rw [absent, List.lookup_cons]
      cases h : k == key <;> simp
    · next eq =>
      have same : key = first := Std.LawfulEqOrd.eq_of_compare eq
      cases h : k == first <;> simp [same, List.lookup_cons, h]
    · next gt =>
      have ne : (key == first) = false := by
        rw [beq_eq_false_iff_ne]
        rintro rfl
        rw [Std.ReflOrd.compare_self] at gt
        cases gt
      cases h : k == first with
      | false => simp [List.lookup_cons, ih ascend, h, ne]
      | true =>
        obtain rfl := LawfulBEq.eq_of_beq h
        rw [BEq.comm] at ne
        simp [ne]

end StaticWiring.Ascending
