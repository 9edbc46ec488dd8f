import StaticWiring.Text.Cut
import StaticWiring.Text.Letter

/-!
# Names of types

A type is named by its package, the names of the types around it, and its own name; a dot stands
between the segments of the package and before the outermost type, a dollar sign before each nested
type. Arrays carry a pair of brackets per dimension.

## Main definitions

* `TypeName.packageOf`, `TypeName.simpleName` — the package and the last segment of a name.
* `TypeName.qualify` — a name in a package.
* `TypeName.sourceShortName` — a name as written in source code inside its package.
* `TypeName.isPrimitive`, `TypeName.isArray` — the kinds of types that names alone tell.
-/

namespace StaticWiring.TypeName

/-- The name of the outermost type around a type. A type that is nested in no other one is its own
outermost type. -/
def outermost (name : List Char) : List Char :=
  name.takeWhile (· != '$')

/-- What precedes the last dot, empty if there is no dot. The dots of a package are separators, so
that the last one ends the package. -/
def beforeLastDot (name : List Char) : List Char :=
  ((name.reverse.dropWhile (· != '.')).drop 1).reverse

/-- The package of a type, which is the package of the outermost type around it. It is empty for the
default package. -/
def packageOf (name : String) : String :=
  String.ofList (beforeLastDot (outermost name.toList))

/-- What follows the last dot or dollar sign. A nested type is therefore named without the types
around it. -/
def simpleName (name : String) : String :=
  String.ofList (name.toList.reverse.takeWhile fun c => c != '.' && c != '$').reverse

/-- The name of a type in a package. In the unnamed package it is the name alone. -/
def qualify (package name : String) : String :=
  if package.isEmpty then name else package ++ "." ++ name

/-- The name of a type without its package. Nested types keep the types around them. -/
def withinPackage (name : String) : String :=
  let package := packageOf name
  if package.isEmpty then name else String.ofList (name.toList.drop (package.length + 1))

/-- The name of a type as written in source code inside its package: nested types follow a dot. It
is the name that the user would write in a file of the same package. -/
def sourceShortName (name : String) : String :=
  Text.replace '$' '.' (withinPackage name)

/-- The names of the primitive types. They are written in small letters, and belong to no package.
-/
def primitives : List String :=
  ["boolean", "byte", "short", "int", "long", "float", "double", "char"]

/-- The type is primitive. Arrays of primitive types are not. -/
def isPrimitive (name : String) : Bool :=
  primitives.contains name

/-- The type is an array. It is told by the brackets behind the element type. -/
def isArray (name : String) : Bool :=
  Text.endsWith "[]" name

end StaticWiring.TypeName
