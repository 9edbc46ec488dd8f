import StaticWiring.Wiring.Attempt
import StaticWiring.Wiring.Choice

/-!
# Wiring definitions

A definition is wired by the choice of its constructor or factory method, and by the injections of
its class and all described super classes, the topmost first, with the fields of each class before
its setters. A type without description is built by a public constructor without parameters. A
member that the generated code cannot use directly is used by reflection.

## Main definitions

* `ClassPath.lineage` — a class and its described super classes.
* `Assembly.instantiate`, `Assembly.inject` — the parts of a wiring.
* `Assembly.wire`, `Assembly.wireAll` — the wirings of definitions.
-/

namespace StaticWiring

/-! ### Super classes -/

/-- A class and its described super classes, the nearest first, up to the first one that is among
those already seen. -/
def ClassPath.lineage (cp : ClassPath) (seen : List String) (t : TypeDecl) : List TypeDecl :=
  match t.superType with
  | none => [t]
  | some name =>
    match found : cp.get? name with
    | none => [t]
    | some parent =>
      if fresh : (seen ++ [t.name]).contains parent.name then [t]
      else
        have := length_unseen_name_lt found (Bool.eq_false_iff.2 fresh)
        t :: cp.lineage (seen ++ [t.name]) parent
termination_by (cp.unseen (seen ++ [t.name])).length
decreasing_by exact this

/-- A class and its described super classes, the topmost first. It is the order in which an instance
is completed. -/
def ClassPath.hierarchy (cp : ClassPath) (t : TypeDecl) : List TypeDecl :=
  (cp.lineage [] t).reverse

namespace Assembly

/-! ### Access -/

/-- The generated code can name the type. Its members may still be hidden. -/
def canName (a : Assembly) (t : TypeDecl) : Bool :=
  t.visibility.reaches t.package a.package

/-- The generated code can use a member of a described type. Both the type and the member have to be
visible. -/
def canUse (a : Assembly) (t : TypeDecl) (member : Visibility) : Bool :=
  a.canName t && member.reaches t.package a.package

/-! ### Instantiation -/

/-- How the instance of a definition is constructed. A class without description is made by its
public constructor without parameters. -/
def construct (a : Assembly) (d : Definition) (t : Option TypeDecl) :
    Except GenerationError Instantiation :=
  match t with
  | none => .ok (.construction [] [] false)
  | some t =>
    match a.choose d.name t.name "constructor"
        (t.effectiveConstructors.map (.ofConstructor t.name)) with
    | .error e => .error e
    | .ok (e, arguments) =>
      .ok (.construction e.parameterTypes arguments !a.canUse t e.visibility)

/-- The overloads of a factory method. There are none in a class without description. -/
def overloads (declaring : Option TypeDecl) (type method : String) : List Executable :=
  match declaring with
  | none => []
  | some t => (t.beanMethods.filter (·.name == method)).map (.ofMethod type)

/-- The overload of a factory method that is called, with its arguments; a method without
description is public and has no parameters. -/
def chooseOverload (a : Assembly) (d : Definition) (declaring : Option TypeDecl)
    (type method : String) : Except GenerationError (List TypeRef × List Value × Visibility) :=
  match overloads declaring type method with
  | [] => .ok ([], [], .publicAccess)
  | es =>
    match a.choose d.name type "factory method" es with
    | .error e => .error e
    | .ok (e, arguments) => .ok (e.parameterTypes, arguments, e.visibility)

/-- The generated code can call a factory method. A class without description can always be named.
-/
def canCall (a : Assembly) (declaring : Option TypeDecl) (method : Visibility) : Bool :=
  match declaring with
  | some t => a.canUse t method
  | none => method == .publicAccess

/-- How the instance of a definition is made by a factory method. The factory bean has to be in the
catalog, even if the method is not found. -/
def callFactory (a : Assembly) (d : Definition) (type : String) (factoryBean : Option String)
    (method : String) : Except GenerationError Instantiation :=
  match factoryBean.filter fun bean => !a.catalog.contains bean with
  | some bean =>
    .error (.unsatisfied d.name ("factory method '" ++ method ++ "'") type
      (.noQualifiedCandidate bean))
  | none =>
    let declaring := a.classPath.get? type
    match a.chooseOverload d declaring type method with
    | .error e => .error e
    | .ok (parameterTypes, arguments, visibility) =>
      .ok (.factoryMethod type factoryBean method parameterTypes arguments
        !a.canCall declaring visibility)

/-- How the instance of a definition is obtained. The form of the origin decides where the members
are looked up. -/
def instantiate (a : Assembly) (d : Definition) : Except GenerationError Instantiation :=
  match d.origin with
  | .construction => a.construct d (a.classPath.get? d.type.name)
  | .factoryMethod type factoryBean method => a.callFactory d type factoryBean method
  | .supplier expression => .ok (.supplier expression)

/-! ### Injections -/

/-- The injection of a field, absent if the field is optional and has no value. A required field
without a value is an error that names the field. -/
def injectField (a : Assembly) (self : String) (owner : TypeDecl) (f : FieldDecl) :
    Except GenerationError (Option Injection) :=
  match a.value? self f.point with
  | .error fault =>
    .error (failure self ("field '" ++ f.name ++ "' of " ++ owner.name) f.type fault)
  | .ok value =>
    .ok (value.map (.field owner.name f.name f.type · !a.canUse owner f.visibility))

/-- The values of the parameters of a setter from the `i`-th on, absent if an optional one has
none. -/
def setterArguments? (a : Assembly) (self signature : String) (m : MethodDecl) (i : Nat) :
    List Parameter → Except GenerationError (Option (List Value))
  | [] => .ok (some [])
  | p :: ps =>
    match a.value? self (m.point p) with
    | .error fault =>
      .error (failure self ("method parameter " ++ toString i ++ " of " ++ signature) p.type fault)
    | .ok none => .ok none
    | .ok (some value) =>
      match a.setterArguments? self signature m (i + 1) ps with
      | .error e => .error e
      | .ok values => .ok (values.map (value :: ·))

/-- The injection by a setter, absent if an optional parameter has no value. It is left out as a
whole then, so that no setter is called with some of its arguments. -/
def injectMethod (a : Assembly) (self : String) (owner : TypeDecl) (m : MethodDecl) :
    Except GenerationError (Option Injection) :=
  let signature := Executable.signatureOf owner.name ("." ++ m.name) m.parameters
  match a.setterArguments? self signature m 0 m.parameters with
  | .error e => .error e
  | .ok arguments =>
    .ok (arguments.map
      (.method owner.name m.name (m.parameters.map (·.type)) · !a.canUse owner m.visibility))

/-- The fields of a class that are injected. A field with an expression is injected even if it is
not marked. -/
def injectedFields (t : TypeDecl) : List FieldDecl :=
  t.fields.filter fun f => f.inject || f.value.isSome

/-- The setters of a class that are called. A factory method is never called as a setter. -/
def setters (t : TypeDecl) : List MethodDecl :=
  t.methods.filter fun m => m.inject && m.bean.isNone

/-- The injections that one class declares, the fields before the setters. Either kind is in the
order of the declaration. -/
def declaredInjections (a : Assembly) (self : String) (owner : TypeDecl) :
    List (Except GenerationError (Option Injection)) :=
  (injectedFields owner).map (a.injectField self owner) ++
    (setters owner).map (a.injectMethod self owner)

/-- Injections one after the other, with what they ask of the native image. The first failure ends
the collection, but what was asked before stays asked. -/
def collect : List (Except GenerationError (Option Injection)) → Attempt (List Injection)
  | [] => pure []
  | injection :: rest => do
    match ← Attempt.ofExcept injection with
    | none => collect rest
    | some injection =>
      Attempt.request injection.requests
      return injection :: (← collect rest)

/-- The injections of a class and its super classes. Those of a super class come before those of the
class. -/
def inject (a : Assembly) (self : String) (t : TypeDecl) : Attempt (List Injection) :=
  collect ((a.classPath.hierarchy t).flatMap (a.declaredInjections self))

/-- The injections of a definition: none for an instance that comes from an expression, or whose
type is not described. -/
def injections (a : Assembly) (d : Definition) : Attempt (List Injection) :=
  match d.origin, a.classPath.get? d.type.name with
  | .supplier _, _ => pure []
  | _, none => pure []
  | _, some t => a.inject d.name t

/-! ### Wirings -/

/-- The wiring of a definition. Requests are made as soon as it is known that they are needed, and
so also by a wiring that fails later. -/
def wire (a : Assembly) (d : Definition) : Attempt Wiring := do
  let typeAccessible := (a.classPath.get? d.type.name).all a.canName
  Attempt.request (if typeAccessible then [] else [.reflection d.type.name .loadType])
  let instantiation ← Attempt.ofExcept (a.instantiate d)
  Attempt.request (instantiation.requests d.type.name)
  return { definition := d, typeAccessible, instantiation, injections := ← a.injections d }

/-- The wirings of definitions in order, up to the first failure. What was asked by earlier wirings
stays asked. -/
def wireEach (a : Assembly) : List Definition → Attempt (List Wiring)
  | [] => pure []
  | d :: ds => do
    let wiring ← a.wire d
    return wiring :: (← a.wireEach ds)

/-- The wirings of all definitions in order, up to the first failure. They are in the order of the
catalog, and are put into another one later. -/
def wireAll (a : Assembly) : Attempt (List Wiring) :=
  a.wireEach a.catalog.definitions

end Assembly

end StaticWiring
