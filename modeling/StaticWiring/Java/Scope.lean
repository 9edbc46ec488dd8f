import StaticWiring.Ascending
import StaticWiring.TypeRef.Basic

/-!
# Short names in a Java file

In a file, the first type of each simple name takes the simple name as its short form and is
imported, unless it lies in the package of the file or in `java.lang`. All later types of the same
simple name are written in full, and so is a type with the simple name of the file's own class. A
nested type is written behind its outermost type, and an array behind its element type. Names
without a package stand for themselves.

## Main definitions

* `Java.Scope` — the short names of a file.
* `Java.Scope.mention` — the scope after a type is mentioned.
* `Java.Scope.write`, `Java.Scope.writeRef` — the written forms of types.
* `Java.Scope.imports` — the imported types.
-/

namespace StaticWiring.Java

/-! ### The parts of a name -/

/-- The characters of the element type of an array of arrays, in reverse, and the number of the
array's dimensions. -/
def stripDimensions : List Char → List Char × Nat
  | ']' :: '[' :: cs =>
    let (element, dimensions) := stripDimensions cs
    (element, dimensions + 1)
  | cs => (cs, 0)

/-- The parts of a type's name. They are spelled one by one, since only the outermost type can be
imported. -/
structure Spelling where
  /-- The outermost type, or the whole name of a type without package. -/
  outer : String
  /-- The nested type behind the outermost one. -/
  nested : Option String
  /-- The number of dimensions of an array. -/
  dimensions : Nat
  /-- The name has a package. -/
  isQualified : Bool
deriving DecidableEq

/-- The parts of a type's name. Nested types are separated by dollar signs in names, but by dots in
source code. -/
def spelling (name : String) : Spelling :=
  let (element, dimensions) := stripDimensions name.toList.reverse
  let element := element.reverse
  if element.contains '.' then
    match Text.cutAt (· == '$') element with
    | none => ⟨String.ofList element, none, dimensions, true⟩
    | some (outer, nested) =>
      ⟨String.ofList outer, some (Text.replace '$' '.' (String.ofList nested)), dimensions, true⟩
  else ⟨Text.replace '$' '.' (String.ofList element), none, dimensions, false⟩

/-- What follows the last dot. It is the whole name if there is no dot. -/
def lastSegment (name : String) : String :=
  String.ofList (name.toList.reverse.takeWhile (· != '.')).reverse

/-! ### Scopes -/

/-- The short names of a file. A short name, once taken, is not given to another type, so that what
was written stays right. -/
structure Scope where
  /-- The package of the file. -/
  package : String
  /-- The class of the file. -/
  className : String
  /-- The other short names with their types, in the order in which they were taken. -/
  taken : List (String × String) := []
deriving DecidableEq, Inhabited

namespace Scope

/-- The type that a short name stands for. The class of the file has taken its own name from the
start. -/
def owner? (s : Scope) (short : String) : Option String :=
  if short = s.className then some (TypeName.qualify s.package s.className)
  else s.taken.lookup short

/-- The scope after a type is mentioned: it takes its simple name, if that is free. The first type
with a short name gets it, and later ones are written in full. -/
def mention (s : Scope) (name : String) : Scope :=
  let parts := spelling name
  if parts.isQualified && (s.owner? (lastSegment parts.outer)).isNone then
    { s with taken := s.taken ++ [(lastSegment parts.outer, parts.outer)] }
  else s

/-- The scope after types are mentioned one after the other. The order decides which of two types
with the same simple name is imported. -/
def mentionAll (s : Scope) (names : List String) : Scope :=
  names.foldl mention s

/-- The written form of an outermost type. It is the short name only if that stands for this very
type. -/
def head (s : Scope) (outer : String) : String :=
  if s.owner? (lastSegment outer) = some outer then lastSegment outer else outer

/-- The written form of a type. Arrays are written as their element type with brackets behind it. -/
def write (s : Scope) (name : String) : String :=
  let parts := spelling name
  let element :=
    if parts.isQualified then
      match parts.nested with
      | some nested => s.head parts.outer ++ "." ++ nested
      | none => s.head parts.outer
    else parts.outer
  element ++ String.join (List.replicate parts.dimensions "[]")

/-- A type of the package needs no import. The same holds for the platform's own package, which
every file sees. -/
def isImplicit (s : Scope) (type : String) : Bool :=
  TypeName.packageOf type == "java.lang" || TypeName.packageOf type == s.package

/-- The imported types in ascending order. Types whose names are implicit take short names, too, but
need no line. -/
def imports (s : Scope) : List String :=
  Ascending.insertAll ((s.taken.map Prod.snd).filter (!s.isImplicit ·)) []

end Scope

/-! ### Type references -/

mutual

/-- The types that a reference mentions, in order. The type comes before its arguments. -/
def mentionedBy : TypeRef → List String
  | ⟨name, arguments⟩ => name :: mentionedByAll arguments

/-- The types that references mention, in order. It is the concatenation of what the references
mention. -/
def mentionedByAll : List TypeRef → List String
  | [] => []
  | t :: ts => mentionedBy t ++ mentionedByAll ts

end

mutual

/-- The written form of a reference. The arguments stand between angle brackets and may have
arguments themselves. -/
def Scope.writeRef (s : Scope) : TypeRef → String
  | ⟨name, []⟩ => s.write name
  | ⟨name, a :: as⟩ => s.write name ++ "<" ++ ", ".intercalate (Scope.writeRefs s (a :: as)) ++ ">"

/-- The written forms of references. They are in the same order, one for each reference. -/
def Scope.writeRefs (s : Scope) : List TypeRef → List String
  | [] => []
  | t :: ts => Scope.writeRef s t :: Scope.writeRefs s ts

end

end StaticWiring.Java
