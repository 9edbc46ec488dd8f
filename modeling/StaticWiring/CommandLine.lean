import StaticWiring.Generation
import StaticWiring.Options.Codec
import StaticWiring.Wiring.Literal

/-!
# The command line

A run is started with options of the form `--name value` or `--name=value`, and flags of the form
`--name`. Flags and single options may be given once, the others any number of times; the values of
lists of folders are separated by colons. Options may also be read from a file, over which those of
the command line have precedence.

## Main definitions

* `CommandLine.scan?` — the options of a command line.
* `Arguments`, `Arguments.ofList?` — their meaning.
* `Arguments.options` — the options of the run.
* `CommandLine.run` — the run with its output.
-/

namespace StaticWiring

namespace CommandLine

/-! ### Options -/

/-- The names of flags. A flag stands alone and takes no value, attached or not. -/
def flags : List String :=
  ["debug", "remove-yaml", "remove-jmx", "remove-xml", "remove-spel"]

/-- The names of options with a value that are given at most once. Giving one of them twice is an
error, whatever the values are. -/
def singles : List String :=
  ["mode", "sources-out", "resources-out", "application-class", "phase", "config", "debug-port",
    "package", "max-statements-per-unit"]

/-- The names of options with a value that may be repeated. Their values are collected in the order
of the command line. -/
def repeatable : List String :=
  ["classes", "resources", "test-classes", "exclude-type", "property", "contributor"]

/-- The name and the attached value of an option. An argument without two hyphens in front is none,
and neither are the two hyphens alone. -/
def splitOption? (argument : String) : Option (String × Option String) :=
  match Text.stripStart? ['-', '-'] argument.toList with
  | none => none
  | some [] => none
  | some option =>
    match Text.cutAt (· == '=') option with
    | some (name, value) => some (String.ofList name, some (String.ofList value))
    | none => some (String.ofList option, none)

/-- The argument cannot be the value of the option before it. A single hyphen is a value, as it is
for most tools. -/
def looksLikeOption (argument : String) : Bool :=
  Text.startsWith "-" argument && argument != "-"

/-- The options of a command line with their values, empty for flags. Two hyphens alone end the
options, and nothing may follow. -/
def scan? : List String → Option (List (String × String))
  | [] => some []
  | ["--"] => some []
  | argument :: rest =>
    match splitOption? argument with
    | none => none
    | some (name, attached) =>
      if flags.contains name then
        if attached.isSome then none else (scan? rest).map ((name, "") :: ·)
      else if singles.contains name || repeatable.contains name then
        match attached, rest with
        | some value, rest => (scan? rest).map ((name, value) :: ·)
        | none, [] => none
        | none, value :: rest =>
          if looksLikeOption value then none else (scan? rest).map ((name, value) :: ·)
      else none

/-- The values of an option in order. They are empty for an option that is not given. -/
def valuesOf (given : List (String × String)) (name : String) : List String :=
  (given.filter (·.1 == name)).map Prod.snd

/-- The value of an option that is given at most once. More than one value is an error, and none
means that a default applies. -/
def atMostOnce? (given : List (String × String)) (name : String) : Option (Option String) :=
  match valuesOf given name with
  | [] => some none
  | [value] => some (some value)
  | _ => none

/-- The meaning of the value of an option that is given at most once. A value without meaning is an
error, so that a default never hides it. -/
def optional? {α : Type} (given : List (String × String)) (name : String)
    (meaning : String → Option α) : Option (Option α) :=
  match atMostOnce? given name with
  | none => none
  | some none => some none
  | some (some value) => (meaning value).map some

/-- A path, which is not empty. An empty one would stand for the current folder by accident. -/
def path? (value : String) : Option String :=
  if value.isEmpty then none else some value

/-- The folders that an option lists, none of them empty. Folders are separated by colons, and the
option may be repeated as well. -/
def folders? (given : List (String × String)) (name : String) : Option (List String) :=
  ((valuesOf given name).flatMap (Text.pieces (· == ':'))).mapM path?

/-- A flag is given; it is not given twice. Like any other option of its kind, it may not be
repeated. -/
def flag? (given : List (String × String)) (name : String) : Option Bool :=
  (atMostOnce? given name).map Option.isSome

/-- Where the debugger listens: a number of sixteen bits. A sign is allowed as long as the number is
in the range. -/
def debugPort? (value : String) : Option Nat :=
  match Literal.integer? value.toList with
  | some n => if 0 ≤ n ∧ n < UInt16.size then some n.toNat else none
  | none => none

/-- A number of sixty-four bits without a minus. A plus in front is allowed, but no blanks. -/
def count? (value : String) : Option Nat :=
  match value.toList with
  | '-' :: _ => none
  | cs =>
    match Literal.integer? cs with
    | some n => if n < UInt64.size then some n.toNat else none
    | none => none

end CommandLine

/-! ### Arguments -/

/-- The meaning of a command line. Options that are not given have their defaults, or are absent
where the file of options decides. -/
structure Arguments where
  /-- The kind of image. -/
  mode : Option Mode
  /-- The folder of generated sources. -/
  sources : String
  /-- The folder of generated resources. -/
  resources : String
  /-- The folders of compiled types. -/
  classFolders : List String
  /-- The resource folders of the application. -/
  resourceFolders : List String
  /-- The folders of compiled types of tests. -/
  testClassFolders : List String
  /-- The application class. -/
  applicationClass : Option String
  /-- The source set. -/
  phase : Phase
  /-- The file with options. -/
  optionsFile : Option String
  /-- More diagnostics. -/
  debug : Bool
  /-- Where the debugger listens. -/
  debugPort : Option Nat
  /-- Configuration files in YAML are left out. -/
  removeYaml : Bool
  /-- Management is left out. -/
  removeJmx : Bool
  /-- XML is left out. -/
  removeXml : Bool
  /-- The expression language is left out. -/
  removeSpel : Bool
  /-- The types whose definitions are dropped. -/
  excludeTypes : List String
  /-- Overriding properties as `key=value`. -/
  properties : List String
  /-- The package of the generated code. -/
  package : Option String
  /-- The number of statements in a generated class. -/
  maxStatements : Option Nat
  /-- The names of the contributors. -/
  contributors : List String

namespace Arguments

open CommandLine

/-- The meaning of the given options. Folders of compiled types and both folders of output are
required; everything else has a default. -/
def ofOptions? (given : List (String × String)) : Option Arguments := do
  let classFolders ← folders? given "classes"
  if classFolders.isEmpty then none
  return {
    mode := ← optional? given "mode" Mode.ofName?
    sources := ← (← optional? given "sources-out" path?)
    resources := ← (← optional? given "resources-out" path?)
    classFolders
    resourceFolders := ← folders? given "resources"
    testClassFolders := ← folders? given "test-classes"
    applicationClass := ← atMostOnce? given "application-class"
    phase := (← optional? given "phase" Phase.ofName?).getD .main
    optionsFile := ← optional? given "config" path?
    debug := ← flag? given "debug"
    debugPort := ← optional? given "debug-port" debugPort?
    removeYaml := ← flag? given "remove-yaml"
    removeJmx := ← flag? given "remove-jmx"
    removeXml := ← flag? given "remove-xml"
    removeSpel := ← flag? given "remove-spel"
    excludeTypes := valuesOf given "exclude-type"
    properties := valuesOf given "property"
    package := ← atMostOnce? given "package"
    maxStatements := ← optional? given "max-statements-per-unit" count?
    contributors := valuesOf given "contributor" }

/-- The meaning of a command line. It is none as soon as a single argument is not understood. -/
def ofList? (arguments : List String) : Option Arguments :=
  scan? arguments >>= ofOptions?

/-- Where the application lives and where the files go. Test classes are looked at only when the
sources of tests are generated. -/
def layout (a : Arguments) : Layout where
  sources := a.sources
  resources := a.resources
  resourceFolders := a.resourceFolders
  classFolders :=
    match a.phase with
    | .main => a.classFolders
    | .test => a.classFolders ++ a.testClassFolders
  applicationClass := a.applicationClass

/-- The paths that a run reads from or writes to. They are what the run may touch; no other file
matters to it. -/
def paths (a : Arguments) : List String :=
  a.layout.classFolders ++ a.resourceFolders ++ [a.sources, a.resources] ++ a.optionsFile.toList

end Arguments

/-! ### The options of a run -/

namespace CommandLine

/-- A failure with the messages of what caused it, the outermost first. The message says what was
tried, and the causes say why it went wrong. -/
structure Failure where
  /-- The message. -/
  message : String
  /-- The messages of the causes. -/
  causes : List String
deriving DecidableEq, Inhabited

/-- The lines that report a failure; the causes are numbered if there are several. A single cause
stands without a number. -/
def Failure.lines (failure : Failure) : List String :=
  ("Error: " ++ failure.message) ::
    match failure.causes with
    | [] => []
    | [cause] => ["", "Caused by:", "    " ++ cause]
    | causes =>
      ["", "Caused by:"] ++
        causes.zipIdx.map fun (cause, number) => "    " ++ toString number ++ ": " ++ cause

/-- The options that a file holds. Either way of failing names the file twice: in the message and in
its cause. -/
def readOptions (files : FileTree) (path : String) : Except Failure Options :=
  let failure (cause : String) : Failure :=
    ⟨"Failed to load options from " ++ path, [cause ++ path]⟩
  match files.text? path with
  | none => .error (failure "cannot read options file ")
  | some text =>
    match Options.ofToml? text with
    | none => .error (failure "invalid options file ")
    | some options => .ok options

/-- The options with an overriding property, given as `key=value`. The key is trimmed but the value
is not, and everything behind the first equals sign is the value. -/
def addProperty (options : Options) (property : String) : Except Failure Options :=
  match Text.cutAt (· == '=') property.toList with
  | some (key, value) =>
    .ok (options.override (Text.trim (String.ofList key)) (String.ofList value))
  | none => .error ⟨"Invalid property '" ++ property ++ "', expected key=value", []⟩

end CommandLine

/-- The options of a run: those of the file, over which the arguments have precedence. Flags add to
those of the file, while values replace the ones there. -/
def Arguments.options (a : Arguments) (files : FileTree) : Except CommandLine.Failure Options := do
  let base ←
    match a.optionsFile with
    | some path => CommandLine.readOptions files path
    | none => .ok {}
  let options := { base with
    mode := a.mode.getD base.mode
    debug := base.debug || a.debug
    debugPort := a.debugPort.getD base.debugPort
    removeYaml := base.removeYaml || a.removeYaml
    removeJmx := base.removeJmx || a.removeJmx
    removeXml := base.removeXml || a.removeXml
    removeSpel := base.removeSpel || a.removeSpel
    excludeTypes := base.excludeTypes ++ a.excludeTypes
    package := a.package.or base.package
    maxStatements := a.maxStatements.getD base.maxStatements
    contributors := if a.contributors.isEmpty then base.contributors else some a.contributors }
  a.properties.foldlM CommandLine.addProperty options

/-! ### Runs -/

namespace CommandLine

/-- How a run is started. It is printed when the command line is not understood. -/
def usage : String :=
  "Usage: static-wiring --sources-out <FOLDER> --resources-out <FOLDER> " ++
    "--classes <FOLDER:FOLDER> [OPTION]..."

/-- What a command line leads to. What the program prints and its exit code follow from it. -/
inductive Outcome where
  /-- The command line has no meaning. -/
  | misuse
  /-- The run failed after some lines of output. -/
  | failed (output : List String) (failure : Failure)
  /-- The run succeeded with lines of output. -/
  | done (output : List String)
deriving DecidableEq, Inhabited

/-- The lines before a run. They say what is about to be generated; the debugger is mentioned only
if it is asked for. -/
def announcement (a : Arguments) (options : Options) : List String :=
  (if options.debug then ["Debugger argument: " ++ options.debugAgentArgument] else []) ++
    ["Generating " ++ a.phase.name ++ " bootstrap (" ++ options.mode.name ++ " mode) from " ++
      toString a.classFolders.length ++ " classes folder(s)"]

/-- The lines after a run. The files are listed in the order in which they were written. -/
def summary (report : Report) : List String :=
  ["Generated " ++ toString report.definitionCount ++ " definitions in " ++
      toString report.classCount ++ " units",
    "Files written (" ++ toString report.files.length ++ "):"] ++
    report.files.map ("  " ++ ·) ++ ["Generation complete."]

/-- The run of a command line with a meaning: the files after it, and what it leads to. Files change
only when the generated ones are written, so that a failure before that leaves them alone. -/
def execute (engine : RegexEngine) (files : FileTree) (a : Arguments) : Outcome × FileTree :=
  match a.options files with
  | .error failure => (.failed [] failure, files)
  | .ok options =>
    match Generation.run engine files a.layout options a.phase none with
    | (.ok report, files) => (.done (announcement a options ++ summary report), files)
    | (.error e, files) =>
      let message := "Failed to generate the " ++ a.phase.name ++ " bootstrap"
      (.failed (announcement a options) ⟨message, e.chain⟩, files)

/-- The run of a command line: the files after it, and what it leads to. A command line that is not
understood changes no file. -/
def run (engine : RegexEngine) (files : FileTree) (arguments : List String) :
    Outcome × FileTree :=
  match Arguments.ofList? arguments with
  | none => (.misuse, files)
  | some a => execute engine files a

end CommandLine

end StaticWiring
