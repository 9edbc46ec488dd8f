import StaticWiring.Definition.Catalog
import StaticWiring.Failure
import StaticWiring.Wiring.Basic

/-!
# Injection points

An injection point is a parameter or a field that a value is found for. A stated expression becomes
a literal. Otherwise the value is an object of the container, all candidates of an element type, or
a single definition: of several candidates the qualified one, the only primary one, or the only one
with the name of the injection point. A definition is no candidate for its own injection points.

## Main definitions

* `InjectionPoint` — parameters and fields.
* `Assembly` — what definitions are wired with.
* `Assembly.narrow` — the candidates among which a value is chosen.
* `Assembly.value?` — the value of an injection point, absent for an optional one without candidate.
-/

namespace StaticWiring

/-- A parameter or a field that a value is found for. It carries all that is looked at when its
value is found, so that parameters and fields are treated alike. -/
structure InjectionPoint where
  /-- The name of the parameter or the field. -/
  name : String
  /-- The type of the value. -/
  type : TypeRef
  /-- The name of the wanted definition. -/
  qualifier : Option String
  /-- The expression of the value. -/
  expression : Option String
  /-- There must be a value. -/
  required : Bool

/-- The injection point of a parameter. It is required unless the parameter says otherwise. -/
def Parameter.point (p : Parameter) : InjectionPoint :=
  ⟨p.name, p.type, p.qualifier, p.value, p.required⟩

/-- The injection point of a field. It is required unless the field says otherwise. -/
def FieldDecl.point (f : FieldDecl) : InjectionPoint :=
  ⟨f.name, f.type, f.qualifier, f.value, f.required⟩

/-- The injection point of a parameter of a setter, which is optional if the setter is. All
parameters of an optional setter can therefore be left without a value. -/
def MethodDecl.point (m : MethodDecl) (p : Parameter) : InjectionPoint :=
  { p.point with required := m.required && p.required }

/-- What definitions are wired with. It is the same for all definitions of a context. -/
structure Assembly where
  /-- The types that are known. -/
  classPath : ClassPath
  /-- The definitions. -/
  catalog : Catalog
  /-- The properties of the application. -/
  environment : Environment
  /-- The package of the generated code. -/
  package : String

namespace Assembly

/-! ### Candidates -/

/-- The candidates for a type, without the definition `self`. A definition is never injected into
itself. -/
def candidates (a : Assembly) (self : String) (type : TypeRef) : List Definition :=
  (a.catalog.candidates a.classPath type).filter (·.name != self)

/-- The only definition of a list that satisfies `p`, if there are several definitions and exactly
one does, and otherwise the list. -/
def prefer (p : Definition → Bool) (ds : List Definition) : List Definition :=
  if ds.length > 1 && (ds.filter p).length == 1 then ds.filter p else ds

/-- The candidates that remain once the primary definition and the one with the name of the
injection point are preferred. -/
def narrow (name : String) (ds : List Definition) : List Definition :=
  prefer (·.name == name) (prefer (·.primary) ds)

/-! ### Values -/

/-- No value, which a required injection point cannot have. The fault is forgotten if the injection
point is optional. -/
def absent (required : Bool) (fault : DependencyFault) : Except DependencyFault (Option Value) :=
  if required then .error fault else .ok none

/-- The literal that an expression denotes. A text that is no literal of the type is an error even
where the value is optional. -/
def literal? (a : Assembly) (point : InjectionPoint) (expression : String) :
    Except DependencyFault (Option Value) :=
  match a.environment.resolve expression with
  | .error cause => absent point.required (.placeholder cause)
  | .ok text =>
    match Literal.ofText? a.classPath point.type.name text with
    | some l => .ok (some (.literal l))
    | none => .error (.invalidValue text)

/-- All candidates of an element type. They are in the order of the catalog, and a qualifier plays
no part. -/
def collection? (a : Assembly) (self : String) (point : InjectionPoint) (kind : CollectionKind)
    (element : TypeRef) : Except DependencyFault (Option Value) :=
  match (a.candidates self element).map (·.name) with
  | [] => absent point.required .noCandidate
  | names => .ok (some (.beans kind element names))

/-- The single definition among candidates. Several definitions are an error even where the value is
optional, since the choice between them is unclear. -/
def single? (point : InjectionPoint) (ds : List Definition) :
    Except DependencyFault (Option Value) :=
  match narrow point.name ds with
  | [] => absent point.required .noCandidate
  | [d] => .ok (some (.bean d.name point.type))
  | several => .error (.multipleCandidates (several.map (·.name)))

/-- The definition of a type with a qualifier, if the injection point has one. The qualifier leaves
at most one definition, as names are distinct. -/
def bean? (a : Assembly) (self : String) (point : InjectionPoint) :
    Except DependencyFault (Option Value) :=
  let ds := a.candidates self point.type
  match point.qualifier with
  | none => single? point ds
  | some qualifier =>
    match ds.filter (·.name == qualifier) with
    | [] => absent point.required (.noQualifiedCandidate qualifier)
    | ds => single? point ds

/-- The value of an injection point of the definition `self`, absent for an optional injection point
without candidate. -/
def value? (a : Assembly) (self : String) (point : InjectionPoint) :
    Except DependencyFault (Option Value) :=
  match point.expression with
  | some expression => a.literal? point expression
  | none =>
    match ContainerObject.ofType? point.type.name with
    | some object => .ok (some (.container object))
    | none =>
      match CollectionKind.ofType? point.type with
      | some (kind, element) => a.collection? self point kind element
      | none => a.bean? self point

end Assembly

end StaticWiring
