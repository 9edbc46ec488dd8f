import Mathlib.Logic.Relation
import StaticWiring.Proofs.ClassForest.Growth
import StaticWiring.Proofs.ClassForest.Placement

/-!
# The links of a forest

A forest can be kept with its links in both directions: every class knows its own number and the
numbers of the classes that belong to it, and whoever adds a class enters it with its parent. The
links then agree with the forest: a class is a child of exactly the class that it names as its
parent, the children of a class stand behind it, in ascending order, and no class is above itself.
Whatever is done with a forest, the classes that were there before keep their links and their
registrations; only the parent of a new class gets one more child.

## Main definitions

* `LinkedClass`, `LinkedForest` — classes with their links.
* `LinkedForest.add`, `LinkedForest.amend`, `LinkedForest.addContext` — adding and changing classes.
* `LinkedForest.Operation`, `LinkedForest.IsMade` — a forest that comes of several operations.
* `LinkedForest.Tracks` — the links say what the forest says.

## Main results

* `LinkedForest.forest_apply` — without its links, a linked forest is changed as a forest is.
* `LinkedForest.tracks_apply` — every operation keeps the links right.
* `LinkedForest.keeps_apply` — what stays of the classes before an operation.
* `LinkedForest.isLinked_of_isMade` — the links of a forest after any number of operations.
-/

namespace StaticWiring

/-! ### Children of a forest -/

namespace ClassForest

variable {f : ClassForest} {i j : Nat}

/-- The children of a class are those that name it as their parent. Their order is that of the
positions. -/
theorem mem_children :
    j ∈ f.children i ↔ ∃ c, f.get? j = some c ∧ c.parent = some i := by
  simp only [children, List.mem_map, List.mem_filter, beq_iff_eq, Prod.exists,
    List.mem_zipIdx_iff_getElem?]
  constructor
  · rintro ⟨c, k, ⟨found, belongs⟩, rfl⟩
    exact ⟨c, found, belongs⟩
  · rintro ⟨c, found, belongs⟩
    exact ⟨c, j, ⟨found, belongs⟩, rfl⟩

theorem pairwise_children (f : ClassForest) (i : Nat) : (f.children i).Pairwise (· < ·) := by
  rw [children_eq_filter]
  exact List.pairwise_lt_range.filter _

/-- A new class is the last child of its parent. The children of all other classes stay as they are.
-/
theorem children_add (f : ClassForest) (c : GeneratedClass) (i : Nat) :
    (f.add c).children i = f.children i ++ if c.parent = some i then [f.size] else [] := by
  simp only [children, add, size, List.zipIdx_append, List.filter_append, List.map_append]
  by_cases belongs : c.parent = some i <;> simp [belongs]

/-- The children stay where the parents do. What else is changed of a class does not matter for
them. -/
theorem children_modify {change : GeneratedClass → GeneratedClass}
    (keeps : ∀ c, (change c).parent = c.parent) (f : ClassForest) (j i : Nat) :
    (f.modify j change).children i = f.children i := by
  have size_eq : (f.modify j change).size = f.size := List.length_modify ..
  rw [children_eq_filter, children_eq_filter, size_eq]
  refine List.filter_congr fun k _ => ?_
  rw [get?_modify]
  cases f.get? k with
  | none => rfl
  | some c => by_cases here : j = k <;> simp [here, keeps]

theorem isGrown_add (grown : f.IsGrown) {c : GeneratedClass}
    (inside : ∀ p, c.parent = some p → p < f.size) : (f.add c).IsGrown := by
  intro i d found p belongs
  rcases Nat.lt_or_ge i f.size with hi | hi
  · exact grown i d ((List.getElem?_append_left hi).symm.trans found) p belongs
  · have new : [c][i - f.size]? = some d := (List.getElem?_append_right hi).symm.trans found
    obtain rfl : d = c := List.mem_singleton.1 (List.mem_of_getElem? new)
    exact (inside p belongs).trans_le hi

theorem isGrown_modify {change : GeneratedClass → GeneratedClass}
    (keeps : ∀ c, (change c).parent = c.parent) (grown : f.IsGrown) (j : Nat) :
    (f.modify j change).IsGrown := by
  intro i d found p belongs
  rw [get?_modify, Option.map_eq_some_iff] at found
  obtain ⟨c, found, rfl⟩ := found
  refine grown i c found p ?_
  split at belongs
  · rwa [keeps] at belongs
  · exact belongs

end ClassForest

/-! ### Linked forests -/

/-- A class with its number and the numbers of the classes that belong to it. The link to the parent
is thus kept on both sides, and the two can disagree in a broken forest. -/
structure LinkedClass where
  /-- The number of the class. -/
  id : Nat
  /-- The class, which names its parent. -/
  content : GeneratedClass
  /-- The children, in the order in which they were added. -/
  children : List Nat := []

/-- The classes of one run with their links. Nothing in the data says that numbers and links fit,
which is for the operations to keep. -/
structure LinkedForest where
  /-- The package of the classes. -/
  package : String
  /-- The classes in the order in which they were added. -/
  nodes : List LinkedClass := []

/-- The class gets one more child. It is the last one, since children are listed in the order in
which they come. -/
def LinkedClass.adopt (child : Nat) (n : LinkedClass) : LinkedClass :=
  { n with children := n.children ++ [child] }

namespace LinkedForest

/-- The number of classes. It is the number that the next class gets. -/
def size (l : LinkedForest) : Nat :=
  l.nodes.length

/-- The forest without its links. Numbers and children are left out, since they can be found from
the parents. -/
def forest (l : LinkedForest) : ClassForest where
  package := l.package
  classes := l.nodes.map (·.content)

/-- The forest with one more class, which is entered with its parent. The parent adopts it at once,
so that no state in between can be seen. -/
def add (l : LinkedForest) (parent : Option Nat) (name : String) (role : GeneratedClass.Role) :
    LinkedForest :=
  let nodes := l.nodes ++ [{ id := l.size, content := { name, role, parent } }]
  match parent with
  | none => { l with nodes }
  | some p => { l with nodes := nodes.modify p (.adopt l.size) }

/-- The forest with the class at a position changed, and its links as they are. It may well give the
class another parent, which is why its uses have to keep the parent. -/
def amend (l : LinkedForest) (i : Nat) (change : GeneratedClass → GeneratedClass) :
    LinkedForest :=
  { l with nodes := l.nodes.modify i fun n => { n with content := change n.content } }

end LinkedForest

/-- The class of a linked forest that takes the next registration. The initializer is the first such
class, and each fork takes over when it is added. -/
structure LinkedCursor where
  /-- The classes. -/
  forest : LinkedForest
  /-- The position of the class. -/
  current : Nat
  /-- The number of forks so far. -/
  forks : Nat

namespace LinkedCursor

/-- The cursor without links. It is the cursor that places the same registrations in a forest
without links. -/
def cursor (c : LinkedCursor) : Cursor where
  forest := c.forest.forest
  current := c.current
  forks := c.forks

/-- The class holds as many registrations as it may. A position without a class is never full. -/
def isFull (limit : Nat) (c : LinkedCursor) : Bool :=
  c.forest.nodes[c.current]?.any fun taker => limit ≤ taker.content.wirings.length

/-- The cursor moves to a new fork of the initializer at a position. The fork belongs to the
initializer, even if an earlier fork is full. -/
def fork (initializer : Nat) (name : String) (c : LinkedCursor) : LinkedCursor where
  forest := c.forest.add (some initializer) (ClassForest.forkName name (c.forks + 1)) .fork
  current := c.forest.size
  forks := c.forks + 1

/-- The class takes a registration. It becomes the last one of the class. -/
def push (w : Wiring) (c : LinkedCursor) : LinkedCursor :=
  { c with
    forest := c.forest.amend c.current fun taker =>
      { taker with wirings := taker.wirings ++ [w] } }

/-- A registration is taken by the class if there is room, and by a new fork otherwise. No class is
given more than it may hold. -/
def place (limit initializer : Nat) (name : String) (c : LinkedCursor) (w : Wiring) :
    LinkedCursor :=
  (if c.isFull limit then c.fork initializer name else c).push w

end LinkedCursor

namespace LinkedForest

/-- The forest with the definitions of a context, placed one by one behind a new initializer.
Nothing is added if the definitions cannot be ordered, and a limit of zero counts as one. -/
def addContext (l : LinkedForest) (limit : Nat) (parent : Option Nat) (name : String)
    (ws : List Wiring) : Except GenerationError LinkedForest :=
  match Schedule.order ws with
  | .error e => .error e
  | .ok ordered => .ok (ordered.foldl (LinkedCursor.place (max limit 1) l.size name)
      ⟨l.add parent name .initializer, l.size, 0⟩).forest

/-- What can be done with a forest. These are all the ways in which a run touches its classes, in
any order. -/
inductive Operation where
  /-- A class is added. -/
  | add (parent : Option Nat) (name : String) (role : GeneratedClass.Role)
  /-- It is changed what a class is for. -/
  | setRole (i : Nat) (role : GeneratedClass.Role)
  /-- The documentation of a class is changed. -/
  | setDoc (i : Nat) (doc : Option String)
  /-- The definitions of a context are added. -/
  | addContext (limit : Nat) (parent : Option Nat) (name : String) (ws : List Wiring)

namespace Operation

/-- The class that a new class belongs to. Operations that add nothing have none. -/
def parent : Operation → Option Nat
  | add parent _ _ | addContext _ parent _ _ => parent
  | setRole _ _ | setDoc _ _ => none

/-- The class that is changed itself. Operations that add classes change none, apart from the
children of the parent. -/
def changed : Operation → Option Nat
  | add _ _ _ | addContext _ _ _ _ => none
  | setRole i _ | setDoc i _ => some i

/-- The positions that the operation is about. A run knows them from operations that came before. -/
def positions : Operation → List Nat
  | add parent _ _ | addContext _ parent _ _ => parent.toList
  | setRole i _ | setDoc i _ => [i]

/-- The operation is about classes among the first `size` ones. Nothing else is asked of an
operation. -/
def IsPlaced (size : Nat) (op : Operation) : Prop :=
  ∀ p ∈ op.positions, p < size

instance (size : Nat) (op : Operation) : Decidable (op.IsPlaced size) :=
  inferInstanceAs (Decidable (∀ p ∈ op.positions, p < size))

/-- The linked forest after an operation; it stays as it is if a context cannot be ordered. A failed
operation thus leaves no part of what it was about to do. -/
def apply (l : LinkedForest) : Operation → LinkedForest
  | add parent name role => l.add parent name role
  | setRole i role => l.amend i fun c => { c with role }
  | setDoc i doc => l.amend i fun c => { c with doc }
  | addContext limit parent name ws => (l.addContext limit parent name ws).toOption.getD l

/-- The forest after an operation; it stays as it is if a context cannot be ordered. It is the
operation as it is carried out without links. -/
def applyTo (f : ClassForest) : Operation → ClassForest
  | add parent name role => f.add { name, role, parent }
  | setRole i role => f.modify i fun c => { c with role }
  | setDoc i doc => f.modify i fun c => { c with doc }
  | addContext limit parent name ws =>
    ((f.addContext limit parent name ws).toOption.map Prod.fst).getD f

end Operation

/-- The linked forest comes of operations, one after the other, on a forest without classes. The
positions that an operation names have to exist by then. -/
inductive IsMade (package : String) : List Operation → LinkedForest → Prop
  /-- Nothing is done. -/
  | start : IsMade package [] { package }
  /-- One more operation. -/
  | step {ops : List Operation} {l : LinkedForest} {op : Operation} (made : IsMade package ops l)
    (placed : op.IsPlaced l.size) : IsMade package (ops ++ [op]) (op.apply l)

variable {l l' : LinkedForest} {parent : Option Nat} {name : String} {role : GeneratedClass.Role}
  {change : GeneratedClass → GeneratedClass} {i : Nat} {n : LinkedClass} {op : Operation}

/-! ### Without links -/

theorem size_forest (l : LinkedForest) : l.forest.size = l.size :=
  List.length_map _

theorem get?_forest (l : LinkedForest) (i : Nat) :
    l.forest.get? i = l.nodes[i]?.map (·.content) :=
  List.getElem?_map ..

theorem map_content_modify {change : LinkedClass → LinkedClass}
    (keeps : ∀ n, (change n).content = n.content) (nodes : List LinkedClass) (i : Nat) :
    (nodes.modify i change).map (·.content) = nodes.map (·.content) := by
  refine List.ext_getElem? fun j => ?_
  rw [List.getElem?_map, List.getElem?_modify, List.getElem?_map]
  cases nodes[j]? with
  | none => rfl
  | some n => by_cases here : i = j <;> simp [here, keeps]

theorem forest_add (l : LinkedForest) (parent : Option Nat) (name : String)
    (role : GeneratedClass.Role) :
    (l.add parent name role).forest = l.forest.add { name, role, parent } := by
  cases parent with
  | none => simp [add, forest, ClassForest.add]
  | some p =>
    have kept : ∀ n, (LinkedClass.adopt l.size n).content = n.content := fun _ => rfl
    simp only [add, forest, ClassForest.add]
    rw [map_content_modify kept, List.map_append, List.map_singleton]

theorem forest_amend (l : LinkedForest) (i : Nat) (change : GeneratedClass → GeneratedClass) :
    (l.amend i change).forest = l.forest.modify i change := by
  simp only [amend, forest, ClassForest.modify, ClassForest.mk.injEq, true_and]
  refine List.ext_getElem? fun j => ?_
  rw [List.getElem?_map, List.getElem?_modify, List.getElem?_modify, List.getElem?_map]
  cases l.nodes[j]? with
  | none => rfl
  | some n => by_cases here : i = j <;> simp [here]

theorem cursor_place (limit initializer : Nat) (name : String) (c : LinkedCursor) (w : Wiring) :
    (c.place limit initializer name w).cursor = c.cursor.place limit initializer name w := by
  have full : c.cursor.isFull limit = c.isFull limit := by
    simp only [Cursor.isFull, LinkedCursor.isFull, LinkedCursor.cursor, get?_forest, Option.any_map]
  simp only [LinkedCursor.place, Cursor.place, full]
  split <;>
    simp only [LinkedCursor.push, LinkedCursor.fork, LinkedCursor.cursor, Cursor.push, Cursor.fork,
      forest_amend, forest_add, size_forest]

theorem cursor_foldl_place (limit initializer : Nat) (name : String) (ws : List Wiring)
    (c : LinkedCursor) :
    (ws.foldl (LinkedCursor.place limit initializer name) c).cursor =
      ws.foldl (Cursor.place limit initializer name) c.cursor :=
  (List.foldl_hom LinkedCursor.cursor fun c w =>
    (cursor_place limit initializer name c w).symm).symm

/-- Without its links, a linked forest is changed as a forest is. The links are added to what the
forest does, and never steer it. -/
theorem forest_apply (l : LinkedForest) (op : Operation) :
    (op.apply l).forest = op.applyTo l.forest := by
  cases op with
  | add parent name role => exact forest_add l parent name role
  | setRole i role => exact forest_amend l i _
  | setDoc i doc => exact forest_amend l i _
  | addContext limit parent name ws =>
    simp only [Operation.apply, Operation.applyTo, addContext, ClassForest.addContext]
    cases Schedule.order ws with
    | error e => rfl
    | ok ordered =>
      have positive : 0 < max limit 1 := by omega
      have placed : _ = Cursor.standing l.forest (max limit 1) parent name ordered :=
        Cursor.foldl_place positive
      rw [size_forest, ← forest_add] at placed
      have unlinked := cursor_foldl_place (max limit 1) l.size name ordered
        ⟨l.add parent name .initializer, l.size, 0⟩
      exact congrArg Cursor.forest (unlinked.trans placed)

/-! ### Links that say what the forest says -/

/-- Every class has its position as its number, and the children that the forest has there. It is
the invariant of linked forests, from which all that is claimed of them is derived. -/
structure Tracks (l : LinkedForest) : Prop where
  /-- Numbers are positions. -/
  id_eq : ∀ (i : Nat) (n : LinkedClass), l.nodes[i]? = some n → n.id = i
  /-- The children are those that name the class as their parent. -/
  children_eq : ∀ (i : Nat) (n : LinkedClass),
    l.nodes[i]? = some n → n.children = l.forest.children i
  /-- Every class belongs to an earlier one, if to any. -/
  isGrown : l.forest.IsGrown

theorem getElem?_add_of_lt (hi : i < l.size) :
    (l.add parent name role).nodes[i]? =
      l.nodes[i]?.map fun n => if parent = some i then n.adopt l.size else n := by
  cases parent with
  | none => simp [add, List.getElem?_append_left hi]
  | some p =>
    simp only [add, List.getElem?_modify, List.getElem?_append_left hi, Option.some.injEq]
    cases l.nodes[i]? with
    | none => rfl
    | some n => by_cases here : p = i <;> simp [here]

theorem getElem?_add_size (inside : ∀ p, parent = some p → p < l.size) :
    (l.add parent name role).nodes[l.size]? =
      some { id := l.size, content := { name, role, parent } } := by
  cases parent with
  | none => exact List.getElem?_concat_length
  | some p =>
    have other : p ≠ l.size := Nat.ne_of_lt (inside p rfl)
    simp only [add]
    rw [List.getElem?_modify_ne _ _ other]
    exact List.getElem?_concat_length

theorem getElem?_amend (l : LinkedForest) (i : Nat) (change : GeneratedClass → GeneratedClass)
    (j : Nat) : (l.amend i change).nodes[j]? =
      l.nodes[j]?.map fun n => if i = j then { n with content := change n.content } else n := by
  rw [amend, List.getElem?_modify]
  cases l.nodes[j]? <;> rfl

theorem size_add (l : LinkedForest) (parent : Option Nat) (name : String)
    (role : GeneratedClass.Role) : (l.add parent name role).size = l.size + 1 := by
  rw [← size_forest, forest_add, ClassForest.size, ClassForest.add, List.length_append,
    List.length_singleton, ← size_forest, ClassForest.size]

theorem size_amend (l : LinkedForest) (i : Nat) (change : GeneratedClass → GeneratedClass) :
    (l.amend i change).size = l.size :=
  List.length_modify ..

/-- The classes of a forest with one more class. It is either an earlier one, which may have got a
child, or the new one. -/
theorem cases_add (inside : ∀ p, parent = some p → p < l.size) {m : LinkedClass}
    (found : (l.add parent name role).nodes[i]? = some m) :
    (i < l.size ∧ ∃ n, l.nodes[i]? = some n ∧ m.id = n.id ∧
        m.children = n.children ++ if parent = some i then [l.size] else []) ∨
      i = l.size ∧ m.id = l.size ∧ m.children = [] := by
  rcases Nat.lt_trichotomy i l.size with hi | rfl | hi
  · rw [getElem?_add_of_lt hi, Option.map_eq_some_iff] at found
    obtain ⟨n, found, rfl⟩ := found
    refine .inl ⟨hi, n, found, ?_⟩
    split <;> simp [LinkedClass.adopt]
  · rw [getElem?_add_size inside, Option.some.injEq] at found
    exact .inr ⟨rfl, found ▸ ⟨rfl, rfl⟩⟩
  · have bound : i < (l.add parent name role).size := (List.getElem?_eq_some_iff.1 found).1
    rw [size_add] at bound
    omega

/-- A new class is entered with its parent and has no children. This is the step of the invariant
for everything that is added. -/
theorem Tracks.add (h : l.Tracks) (inside : ∀ p, parent = some p → p < l.size) :
    (l.add parent name role).Tracks where
  id_eq i m found := by
    obtain ⟨-, n, old, id, -⟩ | ⟨rfl, id, -⟩ := cases_add inside found
    · rw [id, h.id_eq i n old]
    · exact id
  children_eq i m found := by
    rw [forest_add, ClassForest.children_add, size_forest]
    obtain ⟨-, n, old, -, children⟩ | ⟨rfl, -, children⟩ := cases_add inside found
    · rw [children, h.children_eq i n old]
    · have own : parent ≠ some l.size := fun same => Nat.lt_irrefl _ (inside _ same)
      rw [children, ClassForest.children_eq_nil_of_le h.isGrown (size_forest l).le, if_neg own]
      rfl
  isGrown := by
    rw [forest_add]
    exact ClassForest.isGrown_add h.isGrown fun p belongs => size_forest l ▸ inside p belongs

/-- The links stay right where the parents stay. This is the step of the invariant for everything
that is changed. -/
theorem Tracks.amend (h : l.Tracks) (keeps : ∀ c, (change c).parent = c.parent) (i : Nat) :
    (l.amend i change).Tracks := by
  have nodes (j : Nat) (m : LinkedClass) (found : (l.amend i change).nodes[j]? = some m) :
      ∃ n, l.nodes[j]? = some n ∧ m.id = n.id ∧ m.children = n.children := by
    rw [getElem?_amend, Option.map_eq_some_iff] at found
    obtain ⟨n, found, rfl⟩ := found
    refine ⟨n, found, ?_⟩
    split <;> exact ⟨rfl, rfl⟩
  refine ⟨fun j m found => ?_, fun j m found => ?_, ?_⟩
  · obtain ⟨n, old, id, -⟩ := nodes j m found
    rw [id, h.id_eq j n old]
  · obtain ⟨n, old, -, children⟩ := nodes j m found
    rw [children, h.children_eq j n old, forest_amend, ClassForest.children_modify keeps]
  · rw [forest_amend]
    exact ClassForest.isGrown_modify keeps h.isGrown i

/-! ### Placing a context -/

/-- The cursor stands at or behind a position, in front of which all classes are as they were. It is
the invariant of placing registrations, during which only later classes are touched. -/
structure Stands (before : LinkedForest) (position : Nat) (c : LinkedCursor) : Prop where
  /-- The links are right. -/
  tracks : c.forest.Tracks
  /-- There is a class at the position. -/
  lt_size : position < c.forest.size
  /-- The cursor stands at this class or behind it. -/
  le_current : position ≤ c.current
  /-- The classes in front of it are as they were. -/
  getElem?_of_lt : ∀ i < position, c.forest.nodes[i]? = before.nodes[i]?

variable {before : LinkedForest} {position : Nat} {c : LinkedCursor}

theorem Stands.push (h : before.Stands position c) (w : Wiring) :
    before.Stands position (c.push w) where
  tracks := by
    have keeps (taker : GeneratedClass) :
        { taker with wirings := taker.wirings ++ [w] }.parent = taker.parent := rfl
    exact h.tracks.amend keeps c.current
  lt_size := (size_amend ..).symm ▸ h.lt_size
  le_current := h.le_current
  getElem?_of_lt i hi := by
    have other : c.current ≠ i := (hi.trans_le h.le_current).ne'
    rw [← h.getElem?_of_lt i hi]
    exact List.getElem?_modify_ne _ _ other

theorem Stands.fork (h : before.Stands position c) (name : String) :
    before.Stands position (c.fork position name) where
  tracks := h.tracks.add fun p belongs => Option.some.inj belongs ▸ h.lt_size
  lt_size := (size_add ..).symm ▸ Nat.lt_succ_of_lt h.lt_size
  le_current := h.lt_size.le
  getElem?_of_lt i hi := by
    have other : some position ≠ some i := fun same => hi.ne' (Option.some.inj same)
    rw [← h.getElem?_of_lt i hi]
    refine (getElem?_add_of_lt (hi.trans h.lt_size)).trans ?_
    simp only [if_neg other, Option.map_id']

theorem Stands.place (h : before.Stands position c) (limit : Nat) (name : String) (w : Wiring) :
    before.Stands position (c.place limit position name w) := by
  unfold LinkedCursor.place
  split
  · exact (h.fork name).push w
  · exact h.push w

theorem Stands.foldl_place (h : before.Stands position c) (limit : Nat) (name : String)
    (ws : List Wiring) :
    before.Stands position (ws.foldl (LinkedCursor.place limit position name) c) := by
  induction ws generalizing c with
  | nil => exact h
  | cons w ws ih => exact ih (h.place limit name w)

/-- What comes behind a new initializer changes nothing in front of it. Placing registrations only
touches the initializer and its forks. -/
theorem exists_stands_of_addContext (h : l.Tracks) (inside : ∀ p, parent = some p → p < l.size)
    {limit : Nat} {ws : List Wiring} (added : l.addContext limit parent name ws = .ok l') :
    ∃ c, (l.add parent name .initializer).Stands l.size c ∧ c.forest = l' := by
  unfold addContext at added
  split at added
  · cases added
  · next ordered _ =>
    cases added
    have start : (l.add parent name .initializer).Stands l.size
        ⟨l.add parent name .initializer, l.size, 0⟩ :=
      ⟨h.add inside, (size_add ..).symm ▸ Nat.lt_succ_self _, le_rfl, fun _ _ => rfl⟩
    exact ⟨_, start.foldl_place (max limit 1) name ordered, rfl⟩

/-! ### Operations -/

section

variable {limit : Nat} {ws : List Wiring}

theorem apply_of_error {e : GenerationError}
    (failed : l.addContext limit parent name ws = .error e) :
    (Operation.addContext limit parent name ws).apply l = l := by
  rw [Operation.apply, failed]
  rfl

theorem apply_of_ok (added : l.addContext limit parent name ws = .ok l') :
    (Operation.addContext limit parent name ws).apply l = l' := by
  rw [Operation.apply, added]
  rfl

end

/-- Every operation keeps the links right. A run of operations keeps them right by induction. -/
theorem tracks_apply (h : l.Tracks) (placed : op.IsPlaced l.size) : (op.apply l).Tracks := by
  cases op with
  | add parent name role => exact h.add fun p belongs => placed p (Option.mem_toList.2 belongs)
  | setRole i role =>
    have keeps (c : GeneratedClass) : { c with role }.parent = c.parent := rfl
    exact h.amend keeps i
  | setDoc i doc =>
    have keeps (c : GeneratedClass) : { c with doc }.parent = c.parent := rfl
    exact h.amend keeps i
  | addContext limit parent name ws =>
    have inside (p : Nat) (belongs : parent = some p) : p < l.size :=
      placed p (Option.mem_toList.2 belongs)
    cases added : l.addContext limit parent name ws with
    | error e =>
      rw [apply_of_error added]
      exact h
    | ok l' =>
      rw [apply_of_ok added]
      obtain ⟨c, stands, rfl⟩ := exists_stands_of_addContext h inside added
      exact stands.tracks

/-- The classes of the forest `l` have the same numbers, parents, names and registrations in `l'`,
and the same children up to a new one for the parent of what is added. Only the class that is
changed may have another role or another documentation. -/
def Keeps (l : LinkedForest) (op : Operation) (l' : LinkedForest) : Prop :=
  ∀ (i : Nat) (n : LinkedClass), l.nodes[i]? = some n →
    ∃ role doc more, l'.nodes[i]? = some { n with
      content := { n.content with role, doc }, children := n.children ++ more } ∧
      (op.changed = some i ∨ role = n.content.role ∧ doc = n.content.doc) ∧
      (more = [] ∨ op.parent = some i ∧ more = [l.size])

theorem keeps_self (l : LinkedForest) (op : Operation) : l.Keeps op l := by
  intro i n found
  refine ⟨n.content.role, n.content.doc, [], ?_, .inr ⟨rfl, rfl⟩, .inl rfl⟩
  rw [found, List.append_nil]

/-- What adopts a class, if anything, is the parent of what is added. This is how a class is entered
with its parent. -/
theorem keeps_of_adopt
    (adopts : ∀ i < l.size, l'.nodes[i]? =
      l.nodes[i]?.map fun n => if op.parent = some i then n.adopt l.size else n) :
    l.Keeps op l' := by
  intro i n found
  have hi : i < l.size := (List.getElem?_eq_some_iff.1 found).1
  refine ⟨n.content.role, n.content.doc, if op.parent = some i then [l.size] else [], ?_,
    .inr ⟨rfl, rfl⟩, ?_⟩
  · rw [adopts i hi, found, Option.map_some]
    split
    · rfl
    · rw [List.append_nil]
  · split
    · next own => exact .inr ⟨own, rfl⟩
    · exact .inl rfl

theorem keeps_amend {role : GeneratedClass → GeneratedClass.Role}
    {doc : GeneratedClass → Option String} (changes : op.changed = some i) :
    l.Keeps op (l.amend i fun c => { c with role := role c, doc := doc c }) := by
  intro j n found
  rw [getElem?_amend, found, Option.map_some]
  by_cases here : i = j
  · exact ⟨role n.content, doc n.content, [], by simp [here], .inl (here ▸ changes), .inl rfl⟩
  · exact ⟨n.content.role, n.content.doc, [], by simp [here], .inr ⟨rfl, rfl⟩, .inl rfl⟩

/-- Every operation keeps the classes that were there before. Nothing that was known of a class by
its number is lost. -/
theorem keeps_apply (h : l.Tracks) (placed : op.IsPlaced l.size) : l.Keeps op (op.apply l) := by
  cases op with
  | add parent name role => exact keeps_of_adopt fun i hi => getElem?_add_of_lt hi
  | setRole i role => exact keeps_amend rfl
  | setDoc i doc => exact keeps_amend rfl
  | addContext limit parent name ws =>
    have inside (p : Nat) (belongs : parent = some p) : p < l.size :=
      placed p (Option.mem_toList.2 belongs)
    cases added : l.addContext limit parent name ws with
    | error e =>
      rw [apply_of_error added]
      exact keeps_self l _
    | ok l' =>
      rw [apply_of_ok added]
      obtain ⟨c, stands, rfl⟩ := exists_stands_of_addContext h inside added
      exact keeps_of_adopt fun i hi => (stands.getElem?_of_lt i hi).trans (getElem?_add_of_lt hi)

/-! ### Forests that are made -/

theorem IsMade.tracks {package : String} {ops : List Operation} (made : IsMade package ops l) :
    l.Tracks := by
  induction made with
  | start => exact ⟨by simp, by simp, fun i c found => by simp [forest, ClassForest.get?] at found⟩
  | step made placed ih => exact tracks_apply ih placed

theorem IsMade.forest_eq {package : String} {ops : List Operation} (made : IsMade package ops l) :
    l.forest = ops.foldl Operation.applyTo { package } := by
  induction made with
  | start => rfl
  | step made placed ih => rw [forest_apply, ih, List.foldl_append, List.foldl_cons, List.foldl_nil]

/-- The first class belongs to the second one. The link is read off the child, and says nothing of
the list of its parent. -/
def BelongsTo (l : LinkedForest) (i p : Nat) : Prop :=
  ∃ n, l.nodes[i]? = some n ∧ n.content.parent = some p

/-- The links of a forest. It says of both directions of a link that they agree. -/
structure IsLinked (l : LinkedForest) : Prop where
  /-- The number of a class is its position. -/
  id_eq : ∀ (i : Nat) (n : LinkedClass), l.nodes[i]? = some n → n.id = i
  /-- A class is a child of the class that is its parent, and of no other one. -/
  mem_children : ∀ (i : Nat) (n : LinkedClass), l.nodes[i]? = some n →
    ∀ j, j ∈ n.children ↔ l.BelongsTo j i
  /-- The parent of a class is there. -/
  exists_parent : ∀ i p, l.BelongsTo i p → ∃ n, l.nodes[p]? = some n
  /-- The children of a class ascend. -/
  ascends : ∀ (i : Nat) (n : LinkedClass), l.nodes[i]? = some n → n.children.Pairwise (· < ·)
  /-- A class stands behind its parent. -/
  parent_lt : ∀ i p, l.BelongsTo i p → p < i
  /-- No class is above itself. -/
  acyclic : ∀ i, ¬ Relation.TransGen l.BelongsTo i i

theorem Tracks.parent_lt (h : l.Tracks) {p : Nat} (belongs : l.BelongsTo i p) : p < i := by
  obtain ⟨n, found, parent⟩ := belongs
  refine h.isGrown i n.content ?_ p parent
  rw [get?_forest, found, Option.map_some]

theorem Tracks.isLinked (h : l.Tracks) : l.IsLinked where
  id_eq := h.id_eq
  mem_children i n found j := by
    rw [h.children_eq i n found, ClassForest.mem_children, get?_forest]
    constructor
    · rintro ⟨c, child, parent⟩
      obtain ⟨m, here, rfl⟩ := Option.map_eq_some_iff.1 child
      exact ⟨m, here, parent⟩
    · rintro ⟨m, child, parent⟩
      exact ⟨m.content, congrArg (Option.map _) child, parent⟩
  exists_parent i p belongs := by
    obtain ⟨n, found, -⟩ := id belongs
    have inside : p < l.size :=
      (h.parent_lt belongs).trans (List.getElem?_eq_some_iff.1 found).1
    exact ⟨_, List.getElem?_eq_getElem inside⟩
  ascends i n found := by
    rw [h.children_eq i n found]
    exact ClassForest.pairwise_children l.forest i
  parent_lt _ _ := h.parent_lt
  acyclic i around := by
    -- A parent comes before its children, so the positions decrease on the way up.
    have below : ∀ p, Relation.TransGen l.BelongsTo i p → p < i := by
      intro p above
      induction above with
      | single belongs => exact h.parent_lt belongs
      | tail _ belongs ih => exact (h.parent_lt belongs).trans ih
    exact Nat.lt_irrefl i (below i around)

end LinkedForest

/-! ### The contexts of two tests -/

namespace Sample

open LinkedForest

/-- Two contexts are added, of which the first one needs a fork, and a third one fails. The last two
change what the first class and an initializer are for. -/
def testOperations : List Operation :=
  [.add none "ContextLoaders" (.contextLoaders []),
    .addContext 2 (some 0) "Main" services,
    .addContext 2 (some 0) "Loop" [constructedWith "loop" ["loop"]],
    .addContext 2 (some 0) "Second" [constructedWith "clock" []],
    .setDoc 3 (some "The context of a second test."),
    .setRole 0 (.contextLoaders [("app.MainTest", 1), ("app.SecondTest", 3)])]

/-- The forest with both contexts. It has four classes, since the operation that fails adds none. -/
def testForest : LinkedForest :=
  testOperations.foldl Operation.apply { package := "app" }

theorem isMade_testForest : IsMade "app" testOperations testForest := by
  refine .step (.step (.step (.step (.step (.step .start ?_) ?_) ?_) ?_) ?_) ?_ <;> decide

end Sample

namespace LinkedForest

/-! ### Any number of operations -/

/-- A forest that comes of any operations is, without its links, the one that comes of them without
links, and its links are those of this forest. Every further operation leaves the numbers, parents,
names and registrations of the classes as they are, and their children up to a new one for the
parent of what is added. -/
theorem isLinked_of_isMade {package : String} {ops : List Operation}
    (made : IsMade package ops l) :
    l.forest = ops.foldl Operation.applyTo { package } ∧
    (∀ (i : Nat) (n : LinkedClass),
      l.nodes[i]? = some n → n.children = l.forest.children i) ∧
    l.IsLinked ∧
    ∀ op : Operation, op.IsPlaced l.size → l.Keeps op (op.apply l) :=
  ⟨made.forest_eq, made.tracks.children_eq, made.tracks.isLinked,
    fun _ placed => keeps_apply made.tracks placed⟩

/-- The initializers of both tests belong to the first class, and the fork to its initializer. A
class that is added under the second initializer changes no other one. -/
theorem isLinked_of_isMade_testForest :
    IsMade "app" Sample.testOperations Sample.testForest ∧
      Sample.testForest.nodes.map (·.children) = [[1, 3], [2], [], []] ∧
      Sample.testForest.IsLinked ∧
      let late : Operation := .add (some 3) "Late" .fork
      Sample.testForest.Keeps late (late.apply Sample.testForest) := by
  have made := Sample.isMade_testForest
  obtain ⟨-, -, linked, keeps⟩ := isLinked_of_isMade made
  exact ⟨made, by decide, linked, keeps (.add (some 3) "Late" .fork) (by decide)⟩

end LinkedForest

end StaticWiring
