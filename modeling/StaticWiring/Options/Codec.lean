import StaticWiring.Json.Record
import StaticWiring.Options.Basic
import StaticWiring.Toml.Document

/-!
# Options as records

Options are written as a record whose fields have names in small letters with hyphens. The number on
which the debugger listens has sixteen bits, and the number of statements sixty-four.

## Main definitions

* `Options.ofJson?`, `Options.toJson` — options as JSON.
* `Options.ofToml?` — the options of a configuration file.
-/

namespace StaticWiring

open Json

/-- A mode, by its name or as an object whose one key is the name and whose value is empty. Files
and other JSON values differ in what counts as empty. -/
def Mode.ofJson? (isEmpty : Json → Bool) : Json → Option Mode
  | .string name => ofName? name
  | .object [(name, value)] => if isEmpty value then ofName? name else none
  | _ => none

namespace Options

/-- The names of the fields of options. Their order is the one of records that are written as
arrays. -/
def fieldNames : List String :=
  ["mode", "debug", "debug-port", "remove-yaml-support", "remove-jmx-support",
    "remove-xml-support", "remove-spel-support", "exclude-types", "max-statements-per-unit",
    "contributors", "properties", "package"]

/-- A map in ascending order of the keys; of two entries with one key the later counts. The order
makes maps with the same entries equal. -/
def asProperties? (j : Json) : Option (List (String × String)) :=
  (asMap? asString? j).map fun entries =>
    entries.foldl (fun map (key, value) => Ascending.upsert key (fun _ => value) map) []

/-- The options of a record, given which values are empty. Every field may be left out, and then has
its default. -/
def ofRecord? (isEmpty : Json → Bool) (j : Json) : Option Options := do
  let fields ← fields? fieldNames j
  return {
    mode := ← fields.get "mode" (Mode.ofJson? isEmpty) .native
    debug := ← fields.get "debug" asBool? false
    debugPort := ← fields.get "debug-port" (asNat? UInt16.size) 5005
    removeYaml := ← fields.get "remove-yaml-support" asBool? false
    removeJmx := ← fields.get "remove-jmx-support" asBool? false
    removeXml := ← fields.get "remove-xml-support" asBool? false
    removeSpel := ← fields.get "remove-spel-support" asBool? false
    excludeTypes := ← fields.get "exclude-types" asStrings? []
    maxStatements := ← fields.get "max-statements-per-unit" (asNat? UInt64.size) 200
    contributors := ← fields.get "contributors" (asOptional? asStrings?) none
    properties := ← fields.get "properties" asProperties? []
    package := ← fields.get "package" (asOptional? asString?) none }

/-- The options of a JSON value, where `null` is empty. It is the form in which other programs pass
options on. -/
def ofJson? : Json → Option Options :=
  ofRecord? (· == .null)

/-- The options of a configuration file, where an array or a table without elements is empty. It is
the form in which users write them. -/
def ofToml? (text : String) : Option Options := do
  ofRecord? (fun value => value == .array [] || value == .object []) (← Toml.parse? text)

/-- The record of options, every field in its place. Nothing is left out, not even what has its
default. -/
def toJson (o : Options) : Json :=
  .object [("mode", .string o.mode.name), ("debug", .bool o.debug),
    ("debug-port", .nat o.debugPort), ("remove-yaml-support", .bool o.removeYaml),
    ("remove-jmx-support", .bool o.removeJmx), ("remove-xml-support", .bool o.removeXml),
    ("remove-spel-support", .bool o.removeSpel), ("exclude-types", .strings o.excludeTypes),
    ("max-statements-per-unit", .nat o.maxStatements),
    ("contributors", .ofOption Json.strings o.contributors),
    ("properties", .object (o.properties.map fun (key, value) => (key, .string value))),
    ("package", .ofOption Json.string o.package)]

end Options

end StaticWiring
