import Mathlib.Algebra.Order.Floor.Div
import StaticWiring.Proofs.ClassForest.Distribution

/-!
# The classes of a context one by one

The classes of a context are numbered: the initializer is the class zero, and the forks follow. The
`j`-th one holds the `j`-th piece of the registrations. When one more registration follows, it goes
to the last class, or to a new fork if the last class is full.

## Main definitions

* `ClassForest.piece` — a piece of a list by its number.
* `ClassForest.forkCount` — the number of forks that an initializer needs.
* `ClassForest.contextClass` — a class of a context by its number.

## Main results

* `ClassForest.contextClasses_eq_map` — the classes of a context.
* `ClassForest.contextClasses_concat_of_full`, `ClassForest.contextClasses_concat_of_room` — the
  classes with one more registration.
-/

namespace StaticWiring.ClassForest

section Pieces

variable {α : Type} {limit j : Nat} {xs : List α}

/-- The piece with a number of a list in pieces of the length `limit`. It is empty if the list ends
before. -/
def piece (limit : Nat) (xs : List α) (j : Nat) : List α :=
  (xs.drop (limit * j)).take limit

theorem length_piece (limit : Nat) (xs : List α) (j : Nat) :
    (piece limit xs j).length = min limit (xs.length - limit * j) := by
  simp [piece]

theorem piece_drop (limit : Nat) (xs : List α) (j : Nat) :
    piece limit (xs.drop limit) j = piece limit xs (j + 1) := by
  rw [piece, piece, List.drop_drop, Nat.mul_succ, Nat.add_comm]

theorem chunks_eq_map (hl : 0 < limit) (xs : List α) :
    chunks limit xs = (List.range (xs.length ⌈/⌉ limit)).map (piece limit xs) := by
  fun_induction chunks limit xs with
  | case1 xs h =>
    rcases h with rfl | rfl
    · simp
    · omega
  | case2 xs h _ ih =>
    have nonempty : 0 < xs.length := List.length_pos_iff.2 (not_or.1 h).1
    have count : xs.length ⌈/⌉ limit = (xs.drop limit).length ⌈/⌉ limit + 1 := by
      refine eq_of_forall_ge_iff fun k => ?_
      rw [ceilDiv_le_iff_le_mul hl]
      cases k with
      | zero => omega
      | succ k =>
        rw [Nat.add_le_add_iff_right, ceilDiv_le_iff_le_mul hl, List.length_drop,
          Nat.sub_le_iff_le_add, Nat.mul_succ]
    rw [ih, count, List.range_succ_eq_map, List.map_cons, List.map_map]
    congr 1
    refine List.map_congr_left fun j _ => ?_
    exact piece_drop limit xs j

/-- The piece is full once the list reaches behind it. What comes behind it has no influence. -/
theorem piece_concat_of_full (full : limit * (j + 1) ≤ xs.length) (x : α) :
    piece limit (xs ++ [x]) j = piece limit xs j := by
  rw [Nat.mul_succ] at full
  rw [piece, piece, List.drop_append_of_le_length (by omega), List.take_append_of_le_length]
  rw [List.length_drop]
  omega

/-- The last piece takes one more item while there is room. The item thus never starts a piece of
its own here. -/
theorem piece_concat_of_room (begun : limit * j ≤ xs.length) (room : xs.length < limit * (j + 1))
    (x : α) : piece limit (xs ++ [x]) j = piece limit xs j ++ [x] := by
  rw [Nat.mul_succ] at room
  rw [piece, piece, List.drop_append_of_le_length begun, List.take_of_length_le,
    List.take_of_length_le]
  · rw [List.length_drop]
    omega
  · rw [List.length_append, List.length_drop, List.length_singleton]
    omega

end Pieces

/-! ### The number of forks -/

/-- The number of forks of an initializer for so many registrations. It is zero for an empty list,
which has an initializer all the same. -/
def forkCount (limit count : Nat) : Nat :=
  count ⌈/⌉ limit - 1

section Count

variable {limit count k : Nat} (hl : 0 < limit)

include hl

theorem forkCount_le_iff : forkCount limit count ≤ k ↔ count ≤ limit * (k + 1) := by
  rw [forkCount, Nat.sub_le_iff_le_add, ceilDiv_le_iff_le_mul hl]

theorem lt_forkCount_iff : k < forkCount limit count ↔ limit * (k + 1) < count := by
  rw [← Nat.not_le, forkCount_le_iff hl, Nat.not_le]

/-- The classes have room for everything. No registration is therefore left out. -/
theorem le_mul_forkCount_succ (count : Nat) : count ≤ limit * (forkCount limit count + 1) :=
  (forkCount_le_iff hl).1 le_rfl

/-- All classes but the last one are full. Only the last one may have room. -/
theorem mul_le_of_le_forkCount (h : k ≤ forkCount limit count) : limit * k ≤ count := by
  cases k with
  | zero => omega
  | succ k => exact ((lt_forkCount_iff hl).1 h).le

theorem forkCount_eq_of_full (full : limit * (forkCount limit count + 1) ≤ count) :
    forkCount limit (count + 1) = forkCount limit count + 1 := by
  have enough := le_mul_forkCount_succ hl count
  refine Nat.le_antisymm ((forkCount_le_iff hl).2 ?_) ((lt_forkCount_iff hl).2 ?_)
  · rw [Nat.mul_succ]
    omega
  · omega

theorem forkCount_eq_of_room (room : count < limit * (forkCount limit count + 1)) :
    forkCount limit (count + 1) = forkCount limit count := by
  refine Nat.le_antisymm ((forkCount_le_iff hl).2 room) ((forkCount_le_iff hl).2 ?_)
  exact Nat.le_of_succ_le (le_mul_forkCount_succ hl (count + 1))

end Count

/-! ### Classes -/

/-- The class with a number in the context of an initializer at a position. The first one is the
initializer, to which all others belong. -/
def contextClass (limit position : Nat) (parent : Option Nat) (name : String) (ws : List Wiring) :
    Nat → GeneratedClass
  | 0 => { name, role := .initializer, parent, wirings := piece limit ws 0 }
  | n + 1 =>
    { name := forkName name (n + 1), role := .fork, parent := some position,
      wirings := piece limit ws (n + 1) }

section Classes

variable {limit position : Nat} {parent : Option Nat} {name : String} {ws : List Wiring}

theorem wirings_contextClass (j : Nat) :
    (contextClass limit position parent name ws j).wirings = piece limit ws j := by
  cases j <;> rfl

theorem forks_map_range (k : Nat) :
    forks position name ((List.range k).map fun n => piece limit ws (n + 1)) =
      (List.range k).map fun n => contextClass limit position parent name ws (n + 1) := by
  refine List.ext_getElem (by simp [forks]) fun n _ _ => ?_
  simp [forks, contextClass]

theorem contextClasses_eq_map (hl : 0 < limit) :
    contextClasses limit position parent name ws =
      (List.range (forkCount limit ws.length + 1)).map
        (contextClass limit position parent name ws) := by
  rw [contextClasses, chunks_eq_map hl, forkCount, List.range_succ_eq_map, List.map_cons,
    List.map_map]
  cases count : ws.length ⌈/⌉ limit with
  | zero =>
    have few : ws.length ≤ limit * 0 := (ceilDiv_le_iff_le_mul hl).1 count.le
    obtain rfl : ws = [] := List.length_eq_zero_iff.1 (by omega)
    simp [forks, contextClass, piece]
  | succ k =>
    rw [List.range_succ_eq_map, List.map_cons, List.map_map]
    exact congrArg (_ :: ·) (forks_map_range k)

/-- One more registration for a full class goes to a new fork. The classes that were there before
are not touched. -/
theorem contextClasses_concat_of_full (hl : 0 < limit)
    (full : limit * (forkCount limit ws.length + 1) ≤ ws.length) (w : Wiring) :
    contextClasses limit position parent name (ws ++ [w]) =
      contextClasses limit position parent name ws ++
        [{ name := forkName name (forkCount limit ws.length + 1), role := .fork,
           parent := some position, wirings := [w] }] := by
  have enough := le_mul_forkCount_succ hl ws.length
  have length : ws.length = limit * (forkCount limit ws.length + 1) := Nat.le_antisymm enough full
  rw [contextClasses_eq_map hl, contextClasses_eq_map hl, List.length_append,
    List.length_singleton, forkCount_eq_of_full hl full, List.range_succ, List.map_append]
  congr 1
  · refine List.map_congr_left fun j hj => ?_
    have whole : limit * (j + 1) ≤ ws.length :=
      (Nat.mul_le_mul_left limit (List.mem_range.1 hj)).trans full
    have same := piece_concat_of_full whole w
    cases j <;> simp [contextClass, same]
  · have last : piece limit (ws ++ [w]) (forkCount limit ws.length + 1) = [w] := by
      rw [piece, ← length, List.drop_left, List.take_of_length_le hl]
    simp [contextClass, last]

/-- One more registration goes to the last class if there is room. The number of classes stays the
same. -/
theorem contextClasses_concat_of_room (hl : 0 < limit)
    (room : ws.length < limit * (forkCount limit ws.length + 1)) (w : Wiring) :
    contextClasses limit position parent name (ws ++ [w]) =
      (contextClasses limit position parent name ws).modify (forkCount limit ws.length)
        fun c => { c with wirings := c.wirings ++ [w] } := by
  rw [contextClasses_eq_map hl, contextClasses_eq_map hl, List.length_append,
    List.length_singleton, forkCount_eq_of_room hl room]
  refine List.ext_getElem (by simp) fun j hj _ => ?_
  have bound : j ≤ forkCount limit ws.length := by simpa [Nat.lt_succ_iff] using hj
  rw [List.getElem_modify]
  split
  · next last =>
    have same := piece_concat_of_room (mul_le_of_le_forkCount hl bound) (last ▸ room) w
    cases j <;> simp [contextClass, same]
  · next earlier =>
    have whole : limit * (j + 1) ≤ ws.length := mul_le_of_le_forkCount hl (by omega)
    have same := piece_concat_of_full whole w
    cases j <;> simp [contextClass, same]

/-! ### The forest with the classes of a context -/

variable {f : ClassForest}

theorem size_distribute (hl : 0 < limit) :
    (f.distribute limit parent name ws).size = f.size + (forkCount limit ws.length + 1) := by
  rw [size, classes_distribute, List.length_append, contextClasses_eq_map hl, List.length_map,
    List.length_range, size]

theorem get?_distribute_add (hl : 0 < limit) {j : Nat} (hj : j ≤ forkCount limit ws.length) :
    (f.distribute limit parent name ws).get? (f.size + j) =
      some (contextClass limit f.size parent name ws j) := by
  rw [get?, classes_distribute, size, List.getElem?_append_right (Nat.le_add_right _ _),
    Nat.add_sub_cancel_left, contextClasses_eq_map hl, List.getElem?_map,
    List.getElem?_range (Nat.lt_succ_of_le hj), Option.map_some]

/-- A registration for which there is room changes the last class only. It is told here of the whole
forest. -/
theorem distribute_concat_of_room (hl : 0 < limit)
    (room : ws.length < limit * (forkCount limit ws.length + 1)) (w : Wiring) :
    f.distribute limit parent name (ws ++ [w]) =
      (f.distribute limit parent name ws).modify (f.size + forkCount limit ws.length)
        fun c => { c with wirings := c.wirings ++ [w] } := by
  have behind (change : GeneratedClass → GeneratedClass) (added : List GeneratedClass) (j : Nat) :
      (f.classes ++ added).modify (f.classes.length + j) change =
        f.classes ++ added.modify j change := List.modifyTailIdx_add _ _ _ _
  rw [modify, classes_distribute, size, behind]
  exact congrArg (fun added => { f with classes := f.classes ++ added })
    (contextClasses_concat_of_room hl room w)

theorem modify_add_size (f : ClassForest) (c : GeneratedClass)
    (change : GeneratedClass → GeneratedClass) :
    (f.add c).modify f.size change = f.add (change c) :=
  congrArg (fun classes => { f with classes })
    (List.modifyTailIdx_add (List.modifyHead change) 0 f.classes [c])

/-- A registration for a full class goes to a new class behind all others. It thus gets the next
free position. -/
theorem distribute_concat_of_full (hl : 0 < limit)
    (full : limit * (forkCount limit ws.length + 1) ≤ ws.length) (w : Wiring) :
    f.distribute limit parent name (ws ++ [w]) =
      ((f.distribute limit parent name ws).add {
        name := forkName name (forkCount limit ws.length + 1), role := .fork,
        parent := some f.size }).modify (f.distribute limit parent name ws).size
        fun c => { c with wirings := c.wirings ++ [w] } := by
  rw [modify_add_size, add, classes_distribute, List.append_assoc]
  exact congrArg (fun added => { f with classes := f.classes ++ added })
    (contextClasses_concat_of_full hl full w)

end Classes

end StaticWiring.ClassForest
