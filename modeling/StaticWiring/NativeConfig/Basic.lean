import StaticWiring.Ascending
import StaticWiring.Metadata.Hint
import StaticWiring.Text.Cut

/-!
# The configuration of the native image

What the native image must keep for run time: access to types by reflection and from native code,
proxies, resources, resource bundles, and types that are serialized. It grows by requests, which
unite with what is already there. All sets and maps of a configuration ascend, so that
configurations with the same content are equal.

Resources are kept by patterns, which are regular expressions. A pattern that starts with a
circumflex and ends with a dot and a star is broad: it stands for many resources.

## Main definitions

* `TypeAccess` — the access to one type and its members.
* `NativeConfig` — the configuration of the native image.
* `NativeConfig.Request`, `NativeConfig.add` — requests that unite with the configuration, whatever
  is there already.
* `NativeConfig.isBroad` — the pattern stands for many resources.
-/

namespace StaticWiring

/-- The access to one type and its members: what is granted for the type as a whole, and the members
that are named one by one. -/
@[ext]
structure TypeAccess where
  /-- The access to the type. -/
  access : Access := .none
  /-- The methods in ascending order. -/
  methods : List MethodHint := []
  /-- The names of the fields in ascending order, and whether they are written. -/
  fields : List (String × Bool) := []
  /-- The methods ascend. -/
  methods_ascend : Ascending.Ascends methods := by exact Ascending.ascends_nil
  /-- The names of the fields ascend. -/
  fields_ascend : Ascending.KeysAscend fields := by exact Ascending.keysAscend_nil
deriving DecidableEq

instance : Inhabited TypeAccess := ⟨{}⟩

namespace TypeAccess

/-- The access with further bits. What was granted before stays granted, and members are not
touched. -/
def grant (t : TypeAccess) (access : Access) : TypeAccess :=
  { t with access := t.access ||| access }

/-- The access with one more method. A method that is there already changes nothing. -/
def addMethod (t : TypeAccess) (m : MethodHint) : TypeAccess :=
  { t with
    methods := Ascending.insert m t.methods
    methods_ascend := Ascending.ascends_insert t.methods_ascend }

/-- The access with one more field, which stays writable once it is. Later requests that only read
the field take nothing back. -/
def addField (t : TypeAccess) (f : FieldHint) : TypeAccess :=
  { t with
    fields := Ascending.upsert f.name (fun old => old.getD false || f.allowWrite) t.fields
    fields_ascend := Ascending.keysAscend_upsert t.fields_ascend }

end TypeAccess

theorem NativeConfig.ascends_noProxies : Ascending.Ascends ([] : List (List String)) :=
  Ascending.ascends_nil

/-- The configuration of the native image. Every request of a run ends up in it, and the descriptors
of the native image are written from it. -/
@[ext]
structure NativeConfig where
  /-- The types that are accessed by reflection, in ascending order. -/
  reflection : List (String × TypeAccess) := []
  /-- The types that are accessed from native code, in ascending order. -/
  jni : List (String × TypeAccess) := []
  /-- The interfaces of proxies, in ascending order of the lists. -/
  proxies : List (List String) := []
  /-- The regular expressions for resources in ascending order. -/
  patterns : List String := []
  /-- The base names of resource bundles in ascending order. -/
  bundles : List String := []
  /-- The types that are serialized, in ascending order. -/
  serialization : List String := []
  /-- The types that are accessed by reflection ascend. -/
  reflection_ascends : Ascending.KeysAscend reflection := by exact Ascending.keysAscend_nil
  /-- The types that are accessed from native code ascend. -/
  jni_ascends : Ascending.KeysAscend jni := by exact Ascending.keysAscend_nil
  /-- The interfaces of proxies ascend. -/
  proxies_ascend : Ascending.Ascends proxies := by exact NativeConfig.ascends_noProxies
  /-- The patterns ascend. -/
  patterns_ascend : Ascending.Ascends patterns := by exact Ascending.ascends_nil
  /-- The resource bundles ascend. -/
  bundles_ascend : Ascending.Ascends bundles := by exact Ascending.ascends_nil
  /-- The types that are serialized ascend. -/
  serialization_ascends : Ascending.Ascends serialization := by exact Ascending.ascends_nil
deriving DecidableEq

instance : Inhabited NativeConfig := ⟨{}⟩

namespace NativeConfig

/-- Nothing was requested. No file is written then. -/
def isEmpty (config : NativeConfig) : Bool :=
  config.reflection.isEmpty && config.jni.isEmpty && config.proxies.isEmpty &&
    config.patterns.isEmpty && config.bundles.isEmpty && config.serialization.isEmpty

/-! ### Patterns -/

/-- The pattern stands for many resources. Patterns of any other shape are never asked whether they
match a path. -/
def isBroad (pattern : String) : Bool :=
  Text.startsWith "^" pattern && Text.endsWith ".*" pattern

/-- The characters that may mean something else in an expression than themselves. Some of them only
mean something in a bracket, but escaping them does no harm elsewhere. -/
def metaCharacters : List Char :=
  "\\.+*?()|[]\x7b\x7d^$#&-~".toList

/-- A path as a regular expression, with a backslash before each character that may mean something
else. -/
def literalPattern (path : String) : String :=
  String.ofList <| path.toList.flatMap fun c =>
    if metaCharacters.contains c then ['\\', c] else [c]

/-- The path of the class file of a type. Dots in the name become slashes, also those of nested
types as they are written in the name. -/
def classFilePath (type : String) : String :=
  Text.replace '.' '/' type ++ ".class"

/-! ### Requests -/

/-- A request for the native image. It unites with the configuration in the same way whatever has
been requested before. -/
inductive Request where
  /-- Access to a type by reflection. -/
  | reflection (type : String) (access : Access)
  /-- A method that is called by reflection. -/
  | method (type : String) (method : MethodHint)
  /-- A field that is accessed by reflection. -/
  | field (type : String) (field : FieldHint)
  /-- Access to a type from native code. -/
  | jni (type : String) (access : Access) (methods : List MethodHint) (fields : List FieldHint)
  /-- A proxy with interfaces. -/
  | proxy (interfaces : List String)
  /-- All resources that match a pattern. -/
  | pattern (pattern : String)
  /-- A resource bundle. -/
  | bundle (name : String)
  /-- A type that is serialized. -/
  | serialization (type : String)
deriving DecidableEq

/-- The configuration with a change of what is known about one type. A type of which nothing is
known yet starts without access and members. -/
def updateReflection (config : NativeConfig) (type : String) (change : TypeAccess → TypeAccess) :
    NativeConfig :=
  { config with
    reflection := Ascending.upsert type (fun old => change (old.getD {})) config.reflection
    reflection_ascends := Ascending.keysAscend_upsert config.reflection_ascends }

/-- The configuration with one more pattern. It may be there already, and then nothing changes. -/
def addPattern (config : NativeConfig) (pattern : String) : NativeConfig :=
  { config with
    patterns := Ascending.insert pattern config.patterns
    patterns_ascend := Ascending.ascends_insert config.patterns_ascend }

/-- The configuration with one more request. Access to the class file of a type is a request for a
pattern as well, and a proxy without interfaces is none at all. -/
def add (config : NativeConfig) : Request → NativeConfig
  | .reflection type access =>
    let config := config.updateReflection type (·.grant access)
    if access.contains .classFile then config.addPattern (literalPattern (classFilePath type))
    else config
  | .method type method =>
    config.updateReflection type fun t => (t.grant .loadType).addMethod method
  | .field type field =>
    config.updateReflection type fun t => (t.grant .loadType).addField field
  | .jni type access methods fields =>
    { config with
      jni := Ascending.upsert type (fun old =>
        fields.foldl TypeAccess.addField
          (methods.foldl TypeAccess.addMethod ((old.getD {}).grant access))) config.jni
      jni_ascends := Ascending.keysAscend_upsert config.jni_ascends }
  | .proxy interfaces =>
    if interfaces.isEmpty then config
    else
      { config with
        proxies := Ascending.insert interfaces config.proxies
        proxies_ascend := Ascending.ascends_insert config.proxies_ascend }
  | .pattern pattern => config.addPattern pattern
  | .bundle name =>
    { config with
      bundles := Ascending.insert name config.bundles
      bundles_ascend := Ascending.ascends_insert config.bundles_ascend }
  | .serialization type =>
    { config with
      serialization := Ascending.insert type config.serialization
      serialization_ascends := Ascending.ascends_insert config.serialization_ascends }

/-- The configuration with further requests, from the first to the last. They are united in this
order, although any other would lead to the same. -/
def addAll (config : NativeConfig) (requests : List Request) : NativeConfig :=
  requests.foldl add config

end NativeConfig

end StaticWiring
