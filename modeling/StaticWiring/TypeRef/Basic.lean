import StaticWiring.TypeName

/-!
# Type references

A type reference is the name of a type with its type arguments, which are type references again. A
reference without arguments is raw.

## Main definitions

* `TypeRef` — type references.
* `TypeRef.raw` — a reference without arguments.
* `TypeRef.render` — the written form `a.B<c.D, e.F>`.
-/

namespace StaticWiring

/-- The name of a type with its type arguments. A wildcard is a reference whose name is a question
mark. -/
structure TypeRef where
  /-- The name of the type. -/
  name : String
  /-- The type arguments, none for a raw type. -/
  arguments : List TypeRef
deriving BEq, Inhabited

namespace TypeRef

/-- A reference without arguments. It stands for a type about whose arguments nothing is said. -/
def raw (name : String) : TypeRef :=
  ⟨name, []⟩

/-- The reference has type arguments. A reference is raw or generic, but never both. -/
def isGeneric (t : TypeRef) : Bool :=
  !t.arguments.isEmpty

mutual

/-- The characters of the written form. Angle brackets are only written around at least one
argument. -/
def chars : TypeRef → List Char
  | ⟨name, []⟩ => name.toList
  | ⟨name, argument :: arguments⟩ =>
    name.toList ++ '<' :: (charsOfAll (argument :: arguments) ++ ['>'])

/-- The characters of the written forms of a list, separated by a comma and a blank. It is written
in the order of the list, with nothing behind the last one. -/
def charsOfAll : List TypeRef → List Char
  | [] => []
  | [argument] => chars argument
  | argument :: arguments => chars argument ++ ',' :: ' ' :: charsOfAll arguments

end

/-- The written form of a reference. It is the form that messages and metadata use. -/
def render (t : TypeRef) : String :=
  String.ofList t.chars

end TypeRef

end StaticWiring
