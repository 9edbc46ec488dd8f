import Std.Data.TreeMap.Basic

/-!
# The memory of machines

A machine that looks for a regular expression has states, which are numbered as they are made, and
links between them. A state takes the same memory whatever it is for, and more for what it leads to.
A machine that takes too much memory is full, and is not made larger.

States that lead on alike are shared, as far as a table tells that they do. What a state leads to is
its key; each key has one place in the table, and a place holds the last key that was stored there.

## Main definitions

* `Regex.Machine` — the number of states and the memory of their links.
* `Regex.Machine.isFull` — the machine takes too much memory.
* `Regex.Machine.repeated` — a part made many times.
* `Regex.Sharing` — a machine with a table of shared states.
* `Regex.placeOf` — the place of a key.
-/

namespace StaticWiring.Regex

/-- What a machine is made of. Only its size is known, as that is all that decides whether an
expression is refused. -/
structure Machine where
  /-- The number of states. -/
  states : Nat := 0
  /-- The bytes that states take for what they lead to. -/
  links : Nat := 0
deriving DecidableEq, Inhabited

namespace Machine

/-- The bytes that the machine takes. Every state takes the same, and what it leads to comes on top.
-/
def memory (m : Machine) : Nat :=
  32 * m.states + m.links

/-- The greatest number of bytes. It is ten times two to the twentieth. -/
def maxMemory : Nat :=
  0xA00000

/-- The machine takes too much memory. Such an expression is refused. -/
def isFull (m : Machine) : Bool :=
  maxMemory < m.memory

/-- The machine with more states. They have no links of their own. -/
def addStates (n : Nat) (m : Machine) : Machine :=
  { m with states := m.states + n }

/-- The machine with one more state that lists what it leads to by ranges of bytes. Every range
takes eight bytes. -/
def addRanges (n : Nat) (m : Machine) : Machine :=
  { m with states := m.states + 1, links := m.links + 8 * n }

/-- The machine with more links from states for choices. Every link takes four bytes. -/
def link (n : Nat) (m : Machine) : Machine :=
  { m with links := m.links + 4 * n }

/-- The machine with a part made a number of times, or until it is full. The bound keeps a
repetition with a large count from being worked out in vain. -/
def repeated (part : Machine → Machine) : (times : Nat) → Machine → Machine
  | 0, m => m
  | times + 1, m => if m.isFull then m else repeated part times (part m)

end Machine

/-! ### Shared states -/

/-- The place of a key in a table. The numbers of the key are mixed one after another into
sixty-four bits. -/
def placeOf (places : Nat) (key : List Nat) : Nat :=
  let mixed := key.foldl (fun h n => (h ^^^ n.toUInt64) * 1099511628211)
    (14695981039346656037 : UInt64)
  mixed.toNat % places

/-- A machine with a table of states that can be shared. Another key may take the place of an
earlier one, so that only some states are shared. -/
structure Sharing where
  /-- The machine. -/
  machine : Machine
  /-- The keys in the places of the table, with the numbers of their states. -/
  table : Std.TreeMap Nat (List Nat × Nat) := ∅

namespace Sharing

/-- The state for a key, which leads on by a number of ranges of bytes: the one that stands in the
table, or a new one, which takes its place. -/
def state (places ranges : Nat) (key : List Nat) (s : Sharing) : Nat × Sharing :=
  let place := placeOf places key
  let make (_ : Unit) : Nat × Sharing :=
    let number := s.machine.states
    (number, ⟨s.machine.addRanges ranges, s.table.insert place (key, number)⟩)
  match s.table[place]? with
  | some (found, number) => if found = key then (number, s) else make ()
  | none => make ()

end Sharing

end StaticWiring.Regex
