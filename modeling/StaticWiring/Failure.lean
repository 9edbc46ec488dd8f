import StaticWiring.ClassPath
import StaticWiring.Environment.Load
import StaticWiring.Environment.Placeholder

/-!
# Failures

Each stage fails for causes of its own: configurations that cannot be captured, dependencies that
cannot be satisfied, definitions that depend on each other in a cycle, files that cannot be written.
Each cause has one message, and a cause that wraps another names only itself.

## Main definitions

* `LoadError` — why a configuration could not be captured.
* `DependencyFault` — why an injection point has no value.
* `GenerationError` — why a run failed.
* `GenerationError.chain` — the messages of a failure and of what caused it.
-/

namespace StaticWiring

/-- Why a configuration could not be captured. Each names what the user has to look at: a file, a
class, a definition or a condition. -/
inductive LoadError where
  /-- The metadata could not be loaded. -/
  | metadata (fault : ClassPath.LoadFault)
  /-- A property or factories file holds no text. -/
  | unreadable (path : String)
  /-- There is no single application class. -/
  | applicationClassNotDetected (found : Nat)
  /-- A class that is referenced is not on the class path. -/
  | classNotFound (name referencedFrom : String)
  /-- Two definitions share a name. -/
  | duplicateDefinition (name existing replacement : String)
  /-- The property of a condition has a placeholder without value. -/
  | condition (element : String) (cause : PlaceholderError)
deriving DecidableEq

/-- The message for a fault of the metadata. The path is the one below the stated folder. -/
def ClassPath.LoadFault.message : ClassPath.LoadFault → String
  | unreadable path => "cannot read type metadata " ++ path
  | malformed path => "invalid type metadata in " ++ path

/-- The message for a configuration that could not be captured. It does not mention the application,
which the failure of the run does. -/
def LoadError.message : LoadError → String
  | metadata fault => fault.message
  | unreadable path => "cannot read " ++ path
  | applicationClassNotDetected found =>
    "unable to find a single application class: " ++ toString found ++
      " candidate(s) annotated as application entry point"
  | classNotFound name referencedFrom =>
    "class " ++ name ++ " referenced from " ++ referencedFrom ++ " cannot be found"
  | duplicateDefinition name existing replacement =>
    "invalid bean definition with name '" ++ name ++ "' defined by " ++ replacement ++
      ": there is already " ++ existing ++ " bound"
  | condition element _ => "condition on " ++ element ++ " cannot be evaluated"

/-- Why an injection point has no value. It says nothing about the point itself, which is added
where the fault is reported. -/
inductive DependencyFault where
  /-- No definition has the type. -/
  | noCandidate
  /-- No definition of the type has the wanted name. -/
  | noQualifiedCandidate (qualifier : String)
  /-- Several definitions remain. -/
  | multipleCandidates (names : List String)
  /-- The expression of the value has a placeholder without value. -/
  | placeholder (cause : PlaceholderError)
  /-- The value is none of the type. -/
  | invalidValue (text : String)
deriving DecidableEq

/-- The words for an injection point without value. They stand in the middle of a message that names
the definition and the member. -/
def DependencyFault.message : DependencyFault → String
  | noCandidate => "no qualifying bean"
  | noQualifiedCandidate qualifier => "no qualifying bean named '" ++ qualifier ++ "'"
  | multipleCandidates names =>
    "expected single matching bean but found " ++ toString names.length ++ ": " ++
      ",".intercalate names
  | placeholder cause => cause.message
  | invalidValue text => "cannot convert value \"" ++ text ++ "\""

/-- Why a run failed. The first failure ends a run, so that there is never more than one. -/
inductive GenerationError where
  /-- A configuration could not be captured. -/
  | configuration (application : String) (cause : LoadError)
  /-- An injection point has no value. -/
  | unsatisfied (definition member requiredType : String) (fault : DependencyFault)
  /-- Several constructors or factory methods fit equally. -/
  | ambiguousConstruction (definition typeName : String) (candidates : List String)
  /-- Definitions depend on each other in a cycle. -/
  | dependencyCycle (definitions : List String)
  /-- There is no contributor with the name. -/
  | unknownContributor (name : String)
  /-- A file or folder could not be written. -/
  | unwritable (path : String)
deriving DecidableEq

/-- The message for a failed run. Causes are not part of it; they are listed behind it. -/
def GenerationError.message : GenerationError → String
  | configuration application _ => "failed to load the configuration of " ++ application
  | unsatisfied definition member requiredType fault =>
    "error creating bean with name '" ++ definition ++
      "': unsatisfied dependency expressed through " ++ member ++ ": " ++ fault.message ++
      " of type '" ++ requiredType ++ "'"
  | ambiguousConstruction definition typeName candidates =>
    "error creating bean with name '" ++ definition ++ "': ambiguous construction of " ++
      typeName ++ ", candidates: " ++ ", ".intercalate candidates
  | dependencyCycle definitions =>
    "requested beans are currently in creation, unresolvable circular reference between: " ++
      ", ".intercalate definitions
  | unknownContributor name => "unknown bootstrap contributor '" ++ name ++ "'"
  | unwritable path => "failed to write " ++ path

/-- The messages of a failure to capture a configuration and of what caused it. Only a condition has
a cause of its own, namely a placeholder without value. -/
def LoadError.chain (e : LoadError) : List String :=
  match e with
  | condition _ cause => [e.message, cause.message]
  | _ => [e.message]

/-- The messages of a failed run and of what caused it, the outermost first. A failed capture is the
only failure with a cause. -/
def GenerationError.chain (e : GenerationError) : List String :=
  match e with
  | configuration _ cause => e.message :: cause.chain
  | _ => [e.message]

end StaticWiring
