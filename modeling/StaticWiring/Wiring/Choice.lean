import StaticWiring.Wiring.Point

/-!
# The choice of a constructor

Of several constructors, or overloads of a factory method, the marked ones are tried if there are
any, and all of them otherwise. The one with the most parameters wins among those whose parameters
all have a value; two with equally many are ambiguous. If none can be called, the failure of the
first one with the most parameters is reported.

## Main definitions

* `Executable` — a constructor or an overload.
* `Executable.pool` — the ones that are tried.
* `Assembly.arguments` — the values of the parameters.
* `Assembly.choose` — the one that is called, with its arguments.
-/

namespace StaticWiring

/-- A constructor, or an overload of a factory method. Both are chosen alike, so that the choice is
described once. -/
structure Executable where
  /-- The written form with the parameter types. -/
  signature : String
  /-- The parameters in order. -/
  parameters : List Parameter
  /-- Where it can be called. -/
  visibility : Visibility
  /-- It is marked as the preferred one. -/
  autowired : Bool

namespace Executable

/-- The written form of a member of a type with its parameter types. It is how messages name an
executable. -/
def signatureOf (type member : String) (parameters : List Parameter) : String :=
  type ++ member ++ "(" ++ ", ".intercalate (parameters.map (·.type.render)) ++ ")"

/-- A constructor of a type. Its name is that of the type. -/
def ofConstructor (type : String) (c : ConstructorDecl) : Executable :=
  ⟨signatureOf type "" c.parameters, c.parameters, c.visibility, c.autowired⟩

/-- An overload of a factory method of a type. A method is marked in the part that makes it a
factory method. -/
def ofMethod (type : String) (m : MethodDecl) : Executable :=
  ⟨signatureOf type ("." ++ m.name) m.parameters, m.parameters, m.visibility,
    m.bean.any (·.autowired)⟩

/-- The types of the parameters. They tell the overloads of a class apart. -/
def parameterTypes (e : Executable) : List TypeRef :=
  e.parameters.map (·.type)

/-- The ones that are tried: the only one, or the marked ones if there are any, or all. A single one
is tried whether or not it is marked. -/
def pool (es : List Executable) : List Executable :=
  match es with
  | [e] => [e]
  | es =>
    match es.filter (·.autowired) with
    | [] => es
    | marked => marked

end Executable

namespace Assembly

/-- The failure of an injection point of the definition `self`. It names the member in the words of
the user. -/
def failure (self member : String) (type : TypeRef) (fault : DependencyFault) : GenerationError :=
  .unsatisfied self member type.render fault

/-- The values of the parameters from the `i`-th on; an optional one without value is passed
nothing. -/
def argumentsFrom (a : Assembly) (self kind signature : String) (i : Nat) :
    List Parameter → Except GenerationError (List Value)
  | [] => .ok []
  | p :: ps =>
    match a.value? self p.point with
    | .error fault =>
      let member := kind ++ " parameter " ++ toString i ++ " of " ++ signature
      .error (failure self member p.type fault)
    | .ok value =>
      match a.argumentsFrom self kind signature (i + 1) ps with
      | .error e => .error e
      | .ok values => .ok (value.getD .null :: values)

/-- The values of the parameters. The first parameter without a value is the one that is reported.
-/
def arguments (a : Assembly) (self kind : String) (e : Executable) :
    Except GenerationError (List Value) :=
  a.argumentsFrom self kind e.signature 0 e.parameters

/-- The items of a list with the greatest key. They keep their order, and are all of the items if
the keys are equal. -/
def greatest {α : Type} (key : α → Nat) (xs : List α) : List α :=
  xs.filter fun x => xs.all fun y => key y ≤ key x

/-- The executables of a list that can be called, with their arguments. They keep the order in which
they are declared. -/
def callable (a : Assembly) (self kind : String) (es : List Executable) :
    List (Executable × List Value) :=
  es.filterMap fun e => (a.arguments self kind e).toOption.map (e, ·)

/-- The failures of the executables of a list that cannot be called. They keep the order in which
they are declared. -/
def failures (a : Assembly) (self kind : String) (es : List Executable) :
    List (Executable × GenerationError) :=
  es.filterMap fun e =>
    match a.arguments self kind e with
    | .ok _ => none
    | .error fault => some (e, fault)

/-- The executable that is called for the definition `self`, with its arguments. The one with the
most parameters wins, and several of them are ambiguous. If none can be called, the failure is that
of the first one with the most parameters. -/
def choose (a : Assembly) (self type kind : String) (es : List Executable) :
    Except GenerationError (Executable × List Value) :=
  let pool := Executable.pool es
  match greatest (·.1.parameters.length) (a.callable self kind pool) with
  | [chosen] => .ok chosen
  | [] =>
    match greatest (·.1.parameters.length) (a.failures self kind pool) with
    | (_, e) :: _ => .error e
    | [] => .error (.ambiguousConstruction self type [])
  | tied => .error (.ambiguousConstruction self type (tied.map (·.1.signature)))

end Assembly

end StaticWiring
