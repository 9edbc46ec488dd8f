import StaticWiring.Wiring.Basic

/-!
# Forests of generated classes

The classes that one run generates stand in the order in which they were added, in one package. A
class may belong to another one that was added before it. An initializer registers definitions with
a context, and a fork takes over the registrations that an initializer has no room for; another
class maps test classes to the initializers of their contexts.

## Main definitions

* `GeneratedClass` — a class with its registrations.
* `ClassForest` — the classes of one run.
* `ClassForest.children` — the classes that belong to a class.
* `ClassForest.add`, `ClassForest.modify` — adding and changing classes.
-/

namespace StaticWiring

/-- What a generated class is for. The role decides how the class is written and whether its parent
calls it. -/
inductive GeneratedClass.Role where
  /-- It starts the registration of a context's definitions. -/
  | initializer
  /-- It takes over registrations of an initializer. -/
  | fork
  /-- It maps test classes to the positions of initializers. -/
  | contextLoaders (entries : List (String × Nat))
deriving DecidableEq, Inhabited

/-- A generated class. It refers to other classes by their position among the classes of the forest.
-/
structure GeneratedClass where
  /-- The name of the class in its package. -/
  name : String
  /-- What the class is for. -/
  role : GeneratedClass.Role
  /-- The position of the class that this one belongs to. -/
  parent : Option Nat := none
  /-- The definitions that the class registers, in order. -/
  wirings : List Wiring := []
  /-- The documentation of the class. -/
  doc : Option String := none
deriving BEq, Inhabited

/-- The classes that one run generates. Classes are only ever added at the end, so that positions
stay valid. -/
structure ClassForest where
  /-- The package of the classes. -/
  package : String
  /-- The classes in the order in which they were added. -/
  classes : List GeneratedClass := []
deriving BEq, Inhabited

namespace ClassForest

/-- The number of classes. It is also the position of the class that is added next. -/
def size (f : ClassForest) : Nat :=
  f.classes.length

/-- The class at a position. There is none at positions that are too large. -/
def get? (f : ClassForest) (i : Nat) : Option GeneratedClass :=
  f.classes[i]?

/-- The full name of the class with a name. In the unnamed package the name stands alone. -/
def qualify (f : ClassForest) (name : String) : String :=
  TypeName.qualify f.package name

/-- The positions of the classes that belong to the class at a position, in the order in which they
were added. -/
def children (f : ClassForest) (i : Nat) : List Nat :=
  (f.classes.zipIdx.filter (·.1.parent == some i)).map Prod.snd

/-- The number of registrations of all classes. Every registration is counted once, in whatever
class it stands. -/
def wiringCount (f : ClassForest) : Nat :=
  (f.classes.flatMap (·.wirings)).length

/-- The forest with one more class. The positions of the others do not change. -/
def add (f : ClassForest) (c : GeneratedClass) : ClassForest :=
  { f with classes := f.classes ++ [c] }

/-- The forest with the class at a position changed. If there is no class at the position, nothing
changes. -/
def modify (f : ClassForest) (i : Nat) (change : GeneratedClass → GeneratedClass) : ClassForest :=
  { f with classes := f.classes.modify i change }

end ClassForest

end StaticWiring
