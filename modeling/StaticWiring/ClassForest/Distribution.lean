import StaticWiring.ClassForest.Basic
import StaticWiring.Schedule

/-!
# Distributing registrations

The definitions of a context are registered by an initializer in the order of their schedule. Once a
class holds as many registrations as it may, the following ones go into a fork, which belongs to the
initializer. The container creates the initializer by reflection.

## Main definitions

* `ClassForest.chunks` — a list in pieces of a fixed length.
* `ClassForest.distribute` — the forest with an initializer and its forks.
* `ClassForest.addContext` — the forest with the definitions of a context.
-/

namespace StaticWiring.ClassForest

/-- A list in pieces of the length `n`, of which the last one may be shorter. There are no empty
pieces, and none at all if the length is zero. -/
def chunks {α : Type} (n : Nat) (xs : List α) : List (List α) :=
  if h : xs = [] ∨ n = 0 then []
  else
    have : (xs.drop n).length < xs.length := by
      have := List.length_pos_iff.2 (not_or.1 h).1
      grind
    xs.take n :: chunks n (xs.drop n)
termination_by xs.length

/-- The name of a fork, counted from one. Since initializers of different contexts have different
names, so do their forks. -/
def forkName (name : String) (n : Nat) : String :=
  name ++ "Fork" ++ toString n

/-- The forks of the initializer at a position. Each takes one of the pieces, and they are numbered
in the order of the pieces. -/
def forks (parent : Nat) (name : String) (pieces : List (List Wiring)) : List GeneratedClass :=
  pieces.zipIdx.map fun (wirings, n) =>
    { name := forkName name (n + 1), role := .fork, parent := some parent, wirings }

/-- The forest with an initializer and its forks, each with at most `limit` registrations. The
initializer takes the first piece, also if it is empty, and the forks take the others. -/
def distribute (f : ClassForest) (limit : Nat) (parent : Option Nat) (name : String)
    (ws : List Wiring) : ClassForest :=
  let pieces := chunks limit ws
  let initializer : GeneratedClass :=
    { name, role := .initializer, parent, wirings := pieces.headD [] }
  { f with classes := f.classes ++ initializer :: forks f.size name pieces.tail }

/-- The requests for a class that the container creates by reflection. It is found by its name and
made by its constructor without parameters. -/
def creationRequests (type : String) : List NativeConfig.Request :=
  [.reflection type .loadType, .invocation type "<init>" []]

/-- The forest with the definitions of a context in classes of at most `limit` registrations, at
least one, and what the initializer asks of the native image. The initializer stands behind all
classes so far. -/
def addContext (f : ClassForest) (limit : Nat) (parent : Option Nat) (name : String)
    (ws : List Wiring) : Except GenerationError (ClassForest × List NativeConfig.Request) :=
  match Schedule.order ws with
  | .error e => .error e
  | .ok ws => .ok (f.distribute (max limit 1) parent name ws, creationRequests (f.qualify name))

end StaticWiring.ClassForest
