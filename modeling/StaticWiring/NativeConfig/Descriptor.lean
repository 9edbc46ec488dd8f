import StaticWiring.Json.Printer
import StaticWiring.NativeConfig.Basic

/-!
# Descriptors of the native image

The native image reads its configuration from one JSON file for each kind of request. A file without
content is not written, and truth values that are false and empty lists are left out of the entries.

## Main definitions

* `NativeConfig.descriptorValues` — the values of the files that are not empty.
* `NativeConfig.descriptors` — the names and the texts of these files.
-/

namespace StaticWiring.NativeConfig

open Json

/-- The member of a truth value, left out if it is false. It is how descriptors say that something
does not hold. -/
def flagMember (key : String) (value : Bool) : List (String × Json) :=
  if value then [(key, .bool true)] else []

/-- The member of a list, left out if it is empty. It is how descriptors say that there is nothing
to list. -/
def listMember (key : String) (items : List Json) : List (String × Json) :=
  if items.isEmpty then [] else [(key, .array items)]

/-- The names of the access bits that descriptors mention. The other two bits stand for the class
itself, and have no flag in the format. -/
def flagNames : List (String × Access) :=
  [("allDeclaredConstructors", .declaredConstructors),
    ("allPublicConstructors", .publicConstructors), ("allDeclaredMethods", .declaredMethods),
    ("allPublicMethods", .publicMethods), ("allDeclaredFields", .declaredFields),
    ("allPublicFields", .publicFields), ("queryAllDeclaredMethods", .listDeclaredMethods),
    ("queryAllPublicMethods", .listPublicMethods)]

/-- The entry of a method. Its parameter types tell overloads apart, and are written even if there
are none. -/
def methodEntry (m : MethodHint) : Json :=
  .object [("name", .string m.name), ("parameterTypes", .strings m.parameterTypes)]

/-- The entry of a field. It can be read in any case, so that only writing has a flag. -/
def fieldEntry (name : String) (allowWrite : Bool) : Json :=
  .object (("name", .string name) :: flagMember "allowWrite" allowWrite)

/-- The entry of a type. Its name comes first, then the flags, then the members that are listed one
by one. -/
def typeEntry (type : String) (t : TypeAccess) : Json :=
  .object <|
    ("name", .string type) ::
      (flagNames.flatMap fun (key, bit) => flagMember key (t.access.contains bit)) ++
      listMember "methods" (t.methods.map methodEntry) ++
      listMember "fields" (t.fields.map fun (name, allowWrite) => fieldEntry name allowWrite)

/-- The entries of types. They keep the order of the types. -/
def typeEntries (types : List (String × TypeAccess)) : Json :=
  .array (types.map fun (type, t) => typeEntry type t)

/-- The entry of something that has nothing but a name. Bundles and serialized types are of this
kind. -/
def nameEntry (name : String) : Json :=
  .object [("name", .string name)]

/-- The entries of proxies. They keep the order of the proxies, and each keeps that of its
interfaces. -/
def proxyEntries (proxies : List (List String)) : Json :=
  .array (proxies.map fun interfaces => .object [("interfaces", .strings interfaces)])

/-- The record of resources. The patterns are always listed, the bundles only if there are any. -/
def resourceRecord (patterns bundles : List String) : Json :=
  let includes := patterns.map fun pattern => Json.object [("pattern", .string pattern)]
  .object <|
    ("resources", .object [("includes", .array includes)]) ::
      listMember "bundles" (bundles.map nameEntry)

/-- The value of a file, unless nothing was requested for it. It is how an empty category leads to
no file. -/
def fileOf (isEmpty : Bool) (name : String) (value : Json) : List (String × Json) :=
  if isEmpty then [] else [(name, value)]

/-- The names and the values of the files that are not empty. Their order is fixed, so that equal
configurations lead to the same files. -/
def descriptorValues (config : NativeConfig) : List (String × Json) :=
  fileOf config.reflection.isEmpty "reflect-config.json" (typeEntries config.reflection) ++
    fileOf config.jni.isEmpty "jni-config.json" (typeEntries config.jni) ++
    fileOf config.proxies.isEmpty "proxy-config.json" (proxyEntries config.proxies) ++
    fileOf (config.patterns.isEmpty && config.bundles.isEmpty) "resource-config.json"
      (resourceRecord config.patterns config.bundles) ++
    fileOf config.serialization.isEmpty "serialization-config.json"
      (.array (config.serialization.map nameEntry))

/-- The names and the texts of the files that are not empty. Every text is printed over several
lines and ends with a line feed. -/
def descriptors (config : NativeConfig) : List (String × String) :=
  config.descriptorValues.map fun (name, value) => (name, value.pretty ++ "\n")

end StaticWiring.NativeConfig
