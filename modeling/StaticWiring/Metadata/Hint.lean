import StaticWiring.Metadata.Access

/-!
# Hints for the native image

A hint says what a library needs at run time in the native image: reflective access to types and
their members, the same for native code, proxies, resources and serialization. A hint with a trigger
applies only if the trigger is on the class path.

## Main definitions

* `MethodHint`, `FieldHint`, `TypeHint`, `ProxyHint`, `ResourceHint` — the parts of a hint.
* `NativeHint` — a group of hints with one trigger.
* `NativeHint.mentioned` — the types that a hint names.
-/

namespace StaticWiring

/-- A method, or a constructor under the name `<init>`, that is called by reflection. Types are
named as they are in the descriptors, without their arguments. -/
structure MethodHint where
  /-- The name of the method. -/
  name : String := ""
  /-- The names of the parameter types. -/
  parameterTypes : List String := []
deriving DecidableEq, Inhabited

/-- Methods are ordered by their names, overloads by their parameter types. It is the order in which
the descriptor lists them. -/
instance : Ord MethodHint :=
  ⟨compareLex (compareOn MethodHint.name) (compareOn MethodHint.parameterTypes)⟩

instance : Std.TransOrd MethodHint :=
  inferInstanceAs (Std.TransCmp
    (compareLex (compareOn MethodHint.name) (compareOn MethodHint.parameterTypes)))

instance : Std.LawfulEqOrd MethodHint where
  eq_of_compare {m m'} h := by
    obtain ⟨name, parameterTypes⟩ := compareLex_eq_eq.1 h
    cases m
    cases m'
    rw [MethodHint.mk.injEq]
    exact ⟨Std.LawfulEqOrd.eq_of_compare name, Std.LawfulEqOrd.eq_of_compare parameterTypes⟩

/-- A field that is accessed by reflection. Every field can be read. -/
structure FieldHint where
  /-- The name of the field. -/
  name : String := ""
  /-- The field is also written. -/
  allowWrite : Bool := false
deriving DecidableEq, Inhabited

/-- Reflective access to some types. What is said of one of the types is said of all of them. -/
structure TypeHint where
  /-- The names of the types. -/
  types : List String := []
  /-- The access, read off the kinds of the types if empty. -/
  access : Access := .none
  /-- Methods of the types. -/
  methods : List MethodHint := []
  /-- Fields of the types. -/
  fields : List FieldHint := []
deriving DecidableEq, Inhabited

/-- A proxy with a list of interfaces. The order matters, as another order is another proxy. -/
structure ProxyHint where
  /-- The names of the interfaces, in the proxy's order. -/
  interfaces : List String := []
deriving DecidableEq, Inhabited

/-- Resources of the image. The two are different: a bundle is found by its base name in any
language. -/
structure ResourceHint where
  /-- Regular expressions for paths. -/
  patterns : List String := []
  /-- Base names of resource bundles. -/
  bundles : List String := []
deriving DecidableEq, Inhabited

/-- A group of hints with one trigger. A group without trigger always applies. -/
structure NativeHint where
  /-- The type that must be on the class path. -/
  trigger : Option String := none
  /-- Access by reflection. -/
  types : List TypeHint := []
  /-- Access from native code. -/
  jniTypes : List TypeHint := []
  /-- Proxies. -/
  proxies : List ProxyHint := []
  /-- Resources. -/
  resources : List ResourceHint := []
  /-- Types that are serialized. -/
  serializables : List String := []
deriving DecidableEq, Inhabited

/-- The types that a hint names, its trigger first. If any of them belongs to a subsystem that is
left out, the hint does not apply. -/
def NativeHint.mentioned (hint : NativeHint) : List String :=
  hint.trigger.toList ++ hint.types.flatMap TypeHint.types ++
    hint.jniTypes.flatMap TypeHint.types ++ hint.proxies.flatMap ProxyHint.interfaces ++
    hint.serializables

end StaticWiring
