import StaticWiring.Ascending
import StaticWiring.Text.Cut

/-!
# Options

The options of a run: for which kind of image code is generated, which subsystems are left out of
it, what is excluded and overridden, and how much goes into one generated class. A run generates the
code of one source set, the main or the test sources.

## Main definitions

* `Mode`, `Phase` — kinds of images and source sets, with their names.
* `Subsystem` — a part of the framework that can be left out.
* `Options` — the options of a run.
* `Options.isRemoved` — a type belongs to a subsystem that is left out.
* `Options.nativeImageProperties` — the build arguments for what is left out.
-/

namespace StaticWiring

/-! ### Modes and phases -/

/-- The kind of image that the code is generated for. In the second kind nothing but the code is
generated, since an agent finds out the rest. -/
inductive Mode where
  /-- A native image described by what is generated. -/
  | native
  /-- A native image described by an agent that watches a run. -/
  | nativeAgent
deriving DecidableEq, Inhabited

/-- The name of a mode. It is used on the command line and in files alike. -/
def Mode.name : Mode → String
  | native => "native"
  | nativeAgent => "native-agent"

/-- The mode with a name. Names are compared letter by letter. -/
def Mode.ofName? : String → Option Mode
  | "native" => some native
  | "native-agent" => some nativeAgent
  | _ => none

/-- The message for a name that no mode has. It lists the names that there are. -/
def Mode.unknown (name : String) : String :=
  "unknown mode '" ++ name ++ "', expected 'native' or 'native-agent'"

/-- A source set. One run generates code for one of them. -/
inductive Phase where
  /-- The sources of the application. -/
  | main
  /-- The sources of its tests. -/
  | test
deriving DecidableEq, Inhabited

/-- The name of a source set. It also stands in the messages to the user. -/
def Phase.name : Phase → String
  | main => "main"
  | test => "test"

/-- The source set with a name. Names are compared letter by letter. -/
def Phase.ofName? : String → Option Phase
  | "main" => some main
  | "test" => some test
  | _ => none

/-- The message for a name that no source set has. It lists the names that there are. -/
def Phase.unknown (name : String) : String :=
  "unknown phase '" ++ name ++ "', expected 'main' or 'test'"

theorem Mode.ofName?_name (m : Mode) : ofName? m.name = some m := by
  cases m <;> rfl

theorem Phase.ofName?_name (p : Phase) : ofName? p.name = some p := by
  cases p <;> rfl

/-! ### Subsystems -/

/-- A part of the framework that can be left out of the image. Whatever belongs to it is treated as
if it were absent from the class path. -/
inductive Subsystem where
  /-- Configuration files in YAML. -/
  | yaml
  /-- Management by JMX. -/
  | jmx
  /-- Definitions and parsers of XML. -/
  | xml
  /-- The expression language. -/
  | spel
deriving DecidableEq

namespace Subsystem

/-- How the names of the types of a subsystem begin. Each ends with a dot, so that no other package
is meant by accident. -/
def packages : Subsystem → List String
  | yaml => ["org.yaml.snakeyaml."]
  | jmx => ["javax.management.", "org.springframework.jmx."]
  | xml => ["javax.xml.", "org.w3c.dom.", "org.xml.sax.", "org.springframework.beans.factory.xml."]
  | spel => ["org.springframework.expression."]

/-- The system property that tells the application that a subsystem is left out. It is set when the
native image is built. -/
def flag : Subsystem → String
  | yaml => "spring.native.remove-yaml-support"
  | jmx => "spring.native.remove-jmx-support"
  | xml => "spring.native.remove-xml-support"
  | spel => "spring.native.remove-spel-support"

/-- The type belongs to the subsystem. Only the name of the type matters, so that it need not be
described. -/
def owns (s : Subsystem) (type : String) : Bool :=
  s.packages.any fun start => Text.startsWith start type

end Subsystem

/-! ### Options -/

/-- The options of a run. They come from a file and from the command line, and every one of them has
a default. -/
structure Options where
  /-- The kind of image. -/
  mode : Mode := .native
  /-- More diagnostics, and an argument for the debugger. -/
  debug : Bool := false
  /-- Where the debugger listens. -/
  debugPort : Nat := 5005
  /-- Configuration files in YAML are left out. -/
  removeYaml : Bool := false
  /-- Management is left out. -/
  removeJmx : Bool := false
  /-- XML is left out. -/
  removeXml : Bool := false
  /-- The expression language is left out. -/
  removeSpel : Bool := false
  /-- The types whose definitions are dropped. -/
  excludeTypes : List String := []
  /-- The number of statements in a generated class before the next one is begun. -/
  maxStatements : Nat := 200
  /-- The names of the contributors, all of them if absent. -/
  contributors : Option (List String) := none
  /-- Overriding properties in ascending order of the keys. -/
  properties : List (String × String) := []
  /-- The package of the generated code. -/
  package : Option String := none
deriving DecidableEq, Inhabited

namespace Options

/-- The subsystems that are left out. Their order is fixed, whatever the order on the command line
was. -/
def removedSubsystems (o : Options) : List Subsystem :=
  (if o.removeYaml then [.yaml] else []) ++ (if o.removeJmx then [.jmx] else []) ++
    (if o.removeXml then [.xml] else []) ++ (if o.removeSpel then [.spel] else [])

/-- The type belongs to a subsystem that is left out. Conditions and hints are asked about it. -/
def isRemoved (o : Options) (type : String) : Bool :=
  o.removedSubsystems.any fun s => s.owns type

/-- The number of statements in a generated class, at least one. Zero statements would never let a
context end. -/
def statementsPerClass (o : Options) : Nat :=
  max o.maxStatements 1

/-- The argument that lets the application wait for the debugger. It is printed for the user, and no
part of the generated code. -/
def debugAgentArgument (o : Options) : String :=
  "-agentlib:jdwp=transport=dt_socket,server=y,suspend=y,address=*:" ++ toString o.debugPort

/-- The options with one more overriding property. An earlier value of the property is replaced. -/
def override (o : Options) (key value : String) : Options :=
  { o with properties := Ascending.upsert key (fun _ => value) o.properties }

/-- The build arguments of the native image, one for each subsystem that is left out. There are none
if nothing is left out, and then no file is written. -/
def nativeImageProperties (o : Options) : Option String :=
  match o.removedSubsystems with
  | [] => none
  | subsystems =>
    let arguments := subsystems.map fun s => "-D" ++ s.flag ++ "=true"
    some ("Args = " ++ " \\\n       ".intercalate arguments ++ "\n")

end Options

end StaticWiring
