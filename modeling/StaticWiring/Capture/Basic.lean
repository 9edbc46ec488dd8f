import StaticWiring.Definition.Catalog
import StaticWiring.Failure
import StaticWiring.Options.Basic

/-!
# Capturing a configuration: conditions

The definitions of an application are captured from its metadata without running it. Whether an
element of the configuration is registered depends on its conditions, which are evaluated against
the class path, the environment, and the definitions registered so far.

## Main definitions

* `Capture` — what conditions are evaluated against.
* `Capture.holds`, `Capture.allHold` — conditions.
* `Capture.allowsOverriding` — a definition may replace another one with its name.
-/

namespace StaticWiring

/-- What a configuration is captured from. It does not change while classes are processed; what has
been registered so far is kept apart. -/
structure Capture where
  /-- The types that are known. -/
  classPath : ClassPath
  /-- The properties and profiles. -/
  environment : Environment
  /-- The options of the run. -/
  options : Options

namespace Capture

/-- Two texts are equal up to the case of the letters of ASCII. Other letters have to agree as they
are. -/
def equalUptoCase (a b : String) : Bool :=
  a.toList.map Char.toLower == b.toList.map Char.toLower

/-- The property that allows a definition to replace another one with its name. It is looked up in
the environment of the context and nowhere else. -/
def allowOverridingKey : String :=
  "spring.main.allow-bean-definition-overriding"

/-- A definition may replace another one with its name. Overriding is forbidden unless the property
is `true`, whatever the case of its letters and the blanks around it. -/
def allowsOverriding (c : Capture) : Bool :=
  (c.environment.get? allowOverridingKey).any fun value => equalUptoCase (Text.trim value) "true"

/-- The type can be used and belongs to no subsystem that is left out. Conditions on classes ask for
this, so that a subsystem that is left out is treated as if it were absent. -/
def isPresent (c : Capture) (type : String) : Bool :=
  c.classPath.isPresent type && !c.options.isRemoved type

/-- The value of a property fulfils a condition. Without an expected value every value but `false`
will do; letters are compared up to their case. -/
def propertyHolds (value expected : Option String) (ifMissing : Bool) : Bool :=
  match value, expected with
  | none, _ => ifMissing
  | some value, some expected => equalUptoCase (Text.trim value) expected
  | some value, none => !equalUptoCase (Text.trim value) "false"

/-- A condition of an element holds beside the definitions registered so far. Conditions on beans
look at the definitions registered so far, and thus depend on the order of registration. -/
def holds (c : Capture) (element : String) (catalog : Catalog) :
    Condition → Except LoadError Bool
  | .onProperty name expected ifMissing =>
    match c.environment.resolved? name with
    | .error cause => .error (.condition element cause)
    | .ok value => .ok (propertyHolds value expected ifMissing)
  | .onProfile expressions => .ok (c.environment.accepts expressions)
  | .onClass types => .ok (types.all c.isPresent)
  | .onMissingClass types => .ok !types.any c.isPresent
  | .onBean type => .ok (catalog.hasCandidate c.classPath type)
  | .onMissingBean type => .ok !catalog.hasCandidate c.classPath type

/-- All conditions of an element hold; those behind the first one that fails are not evaluated. In
particular a placeholder in a later condition cannot fail if an earlier condition does not hold. -/
def allHold (c : Capture) (element : String) (catalog : Catalog) :
    List Condition → Except LoadError Bool
  | [] => .ok true
  | condition :: conditions =>
    match c.holds element catalog condition with
    | .error e => .error e
    | .ok false => .ok false
    | .ok true => c.allHold element catalog conditions

end Capture

end StaticWiring
