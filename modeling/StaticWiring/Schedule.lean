import StaticWiring.Ascending
import StaticWiring.Failure
import StaticWiring.Wiring.Basic

/-!
# Schedules

Wirings are put into an order in which each one follows those that it mentions. Of all wirings that
can come next, the one that was given first does, so that independent wirings keep their places.
Every position counts the mentions that are still pending; it becomes ready once there is none left.
Wirings that mention each other in a cycle never become ready.

## Main definitions

* `Schedule.needs` — the positions that each position waits for.
* `Schedule.State`, `Schedule.step` — the ready positions and the pending mentions.
* `Schedule.finalState` — the state in which no position is ready.
* `Schedule.order` — wirings in order.
-/

namespace StaticWiring.Schedule

/-! ### Needs -/

/-- The last position of a name. Names are distinct wherever wirings stem from a catalog, and then
it is the only one. -/
def position? (names : List String) (name : String) : Option Nat :=
  (names.zipIdx.reverse.lookup name)

/-- The positions that each position waits for. A name that no wiring has is waited for by nobody.
-/
def needs (ws : List Wiring) : List (List Nat) :=
  let names := ws.map (·.definition.name)
  ws.map fun w => w.references.filterMap (position? names)

/-- The positions that wait for a position. They ascend, and each of them is listed once. -/
def dependents (needs : List (List Nat)) (i : Nat) : List Nat :=
  (needs.zipIdx.filter (·.1.contains i)).map Prod.snd

/-! ### States -/

/-- The state of a schedule. It is all that is known between two steps, besides the mentions
themselves. -/
structure State where
  /-- The number of pending mentions of every position. -/
  pending : List Nat
  /-- The positions that can come next, in ascending order. -/
  ready : List Nat
  /-- The positions that are scheduled, in order. -/
  scheduled : List Nat := []
deriving DecidableEq

/-- The positions without pending mentions. They ascend. -/
def idle (pending : List Nat) : List Nat :=
  (pending.zipIdx.filter (·.1 == 0)).map Prod.snd

/-- The state before any position is scheduled. Every mention is pending, so that only positions
without mentions are ready. -/
def start (needs : List (List Nat)) : State :=
  let pending := needs.map List.length
  { pending, ready := idle pending }

/-- The state once one mention of a position is no longer pending. A position becomes ready when its
last mention is released. -/
def release (s : State) (i : Nat) : State :=
  let left := s.pending.getD i 0 - 1
  { s with
    pending := s.pending.set i left
    ready := if left = 0 then Ascending.insert i s.ready else s.ready }

/-- The state after the first ready position is scheduled. It is the ready position that was given
first, and all positions that wait for it are released once. -/
def step (needs : List (List Nat)) (s : State) : State :=
  match s.ready with
  | [] => s
  | i :: ready =>
    (dependents needs i).foldl release { s with ready, scheduled := s.scheduled ++ [i] }

/-- The state in which no position is ready: every step schedules a position that was not scheduled
before, so that there are no more steps than positions. -/
def finalState (needs : List (List Nat)) : State :=
  Nat.repeat (step needs) needs.length (start needs)

/-! ### Orders -/

/-- The wirings with pending mentions. They keep the order in which they were given. -/
def blocked (ws : List Wiring) (s : State) : List Wiring :=
  ((ws.zip s.pending).filter (·.2 > 0)).map Prod.fst

/-- The wirings in an order in which each one follows those that it mentions. If a position is left
over, the names of all that are left over are reported. -/
def order (ws : List Wiring) : Except GenerationError (List Wiring) :=
  let s := finalState (needs ws)
  if s.scheduled.length = ws.length then .ok (s.scheduled.filterMap (ws[·]?))
  else .error (.dependencyCycle ((blocked ws s).map (·.definition.name)))

end StaticWiring.Schedule
