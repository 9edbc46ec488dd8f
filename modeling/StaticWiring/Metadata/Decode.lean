import StaticWiring.Json.Reader
import StaticWiring.Json.Record
import StaticWiring.Metadata.Basic
import StaticWiring.TypeRef.Parser

/-!
# Reading metadata

Metadata is written in JSON: records with the fields of `StaticWiring.Metadata.Basic` under names in
small letters with underscores, type references as their text, kinds and visibilities as words, and
a condition as an object with one member. A metadata file is a record with the list `types`. The
record of a condition on a property is an object in a JSON value, and may be an array in a file.

## Main definitions

* `TypeDecl.ofJson?`, `NativeHint.ofJson?`, `Condition.ofJson?`, `Access.ofJson?`,
  `Visibility.ofJson?`, `TypeKind.ofJson?` — the parts of metadata.
* `TypeDecl.ofFile?` — the types of a metadata file.
-/

namespace StaticWiring

open Json

/-! ### Words and references -/

/-- A word for one of a few values, alone or as the key of an object with the value `null`. Some
writers put the word alone, others give every variant a value. -/
def Json.asWord? {α : Type} (decode : String → Option α) : Json → Option α
  | .string word => decode word
  | .object [(word, .null)] => decode word
  | _ => none

/-- The visibility with a name. Names are in small letters. -/
def Visibility.ofName? : String → Option Visibility
  | "public" => some .publicAccess
  | "protected" => some .protectedAccess
  | "package" => some .packageAccess
  | "private" => some .privateAccess
  | _ => none

/-- A visibility. It has no default here, as every record has one of its own. -/
def Visibility.ofJson? : Json → Option Visibility :=
  Json.asWord? ofName?

/-- The kind with a name. Names are in small letters. -/
def TypeKind.ofName? : String → Option TypeKind
  | "class" => some .classKind
  | "interface" => some .interfaceKind
  | "annotation" => some .annotationKind
  | "enum" => some .enumKind
  | _ => none

/-- A kind. Words that name no kind are an error. -/
def TypeKind.ofJson? : Json → Option TypeKind :=
  Json.asWord? ofName?

/-- A type reference. It is written as a text in the grammar of references. -/
def TypeRef.ofJson? : Json → Option TypeRef
  | .string text => (TypeRef.parse text).toOption
  | _ => none

/-- A set of access bits. It is a number of 32 bits, of which unknown bits are kept. -/
def Access.ofJson? (j : Json) : Option Access :=
  (asNat? UInt32.size j).map fun n => ⟨n.toUInt32⟩

/-! ### Hints -/

/-- A method of a hint. Both of its fields may be left out. -/
def MethodHint.ofJson? (j : Json) : Option MethodHint := do
  let fields ← fields? ["name", "parameter_types"] j
  return {
    name := ← fields.get "name" asString? ""
    parameterTypes := ← fields.get "parameter_types" asStrings? [] }

/-- A field of a hint. It can be read but not written unless the hint says otherwise. -/
def FieldHint.ofJson? (j : Json) : Option FieldHint := do
  let fields ← fields? ["name", "allow_write"] j
  return {
    name := ← fields.get "name" asString? ""
    allowWrite := ← fields.get "allow_write" asBool? false }

/-- The access to some types. No access at all is the default, so that members have to be named. -/
def TypeHint.ofJson? (j : Json) : Option TypeHint := do
  let fields ← fields? ["types", "access", "methods", "fields"] j
  return {
    types := ← fields.get "types" asStrings? []
    access := ← fields.get "access" Access.ofJson? .none
    methods := ← fields.get "methods" (asList? MethodHint.ofJson?) []
    fields := ← fields.get "fields" (asList? FieldHint.ofJson?) [] }

/-- A proxy. Its order of interfaces is kept. -/
def ProxyHint.ofJson? (j : Json) : Option ProxyHint := do
  let fields ← fields? ["types"] j
  return { interfaces := ← fields.get "types" asStrings? [] }

/-- Resources. Patterns and bundles are independent of each other. -/
def ResourceHint.ofJson? (j : Json) : Option ResourceHint := do
  let fields ← fields? ["patterns", "bundles"] j
  return {
    patterns := ← fields.get "patterns" asStrings? []
    bundles := ← fields.get "bundles" asStrings? [] }

/-- A group of hints. Without a trigger it applies to every application. -/
def NativeHint.ofJson? (j : Json) : Option NativeHint := do
  let fields ← fields?
    ["trigger", "types", "jni_types", "proxies", "resources", "serializables"] j
  return {
    trigger := ← fields.get "trigger" (asOptional? asString?) none
    types := ← fields.get "types" (asList? TypeHint.ofJson?) []
    jniTypes := ← fields.get "jni_types" (asList? TypeHint.ofJson?) []
    proxies := ← fields.get "proxies" (asList? ProxyHint.ofJson?) []
    resources := ← fields.get "resources" (asList? ResourceHint.ofJson?) []
    serializables := ← fields.get "serializables" asStrings? [] }

/-! ### Members -/

/-- A parameter. Everything has a default, the type included. -/
def Parameter.ofJson? (j : Json) : Option Parameter := do
  let fields ← fields? ["name", "type", "qualifier", "value", "required"] j
  return {
    name := ← fields.get "name" asString? ""
    type := ← fields.get "type" TypeRef.ofJson? (.raw "java.lang.Object")
    qualifier := ← fields.get "qualifier" (asOptional? asString?) none
    value := ← fields.get "value" (asOptional? asString?) none
    required := ← fields.get "required" asBool? true }

/-- A constructor. It is public and has no parameters unless stated otherwise. -/
def ConstructorDecl.ofJson? (j : Json) : Option ConstructorDecl := do
  let fields ← fields? ["parameters", "visibility", "autowired"] j
  return {
    parameters := ← fields.get "parameters" (asList? Parameter.ofJson?) []
    visibility := ← fields.get "visibility" Visibility.ofJson? .publicAccess
    autowired := ← fields.get "autowired" asBool? false }

/-- The condition on a property. The name of the property is the only thing without a default. -/
def Condition.ofPropertyJson? (inFile : Bool) (j : Json) : Option Condition := do
  let fields ← fields? ["name", "having_value", "match_if_missing"] j
  guard (inFile || !j.isArray)
  return .onProperty (← fields.require "name" asString?)
    (← fields.get "having_value" (asOptional? asString?) none)
    (← fields.get "match_if_missing" asBool? false)

/-- A condition: an object whose only key tells the kind. An object with further keys is none. -/
def Condition.ofJson? (inFile : Bool) : Json → Option Condition
  | .object [("on_property", value)] => ofPropertyJson? inFile value
  | .object [("on_profile", value)] => (asStrings? value).map onProfile
  | .object [("on_class", value)] => (asStrings? value).map onClass
  | .object [("on_missing_class", value)] => (asStrings? value).map onMissingClass
  | .object [("on_bean", value)] => (asString? value).map onBean
  | .object [("on_missing_bean", value)] => (asString? value).map onMissingBean
  | _ => none

/-- What makes a method a factory method. An empty object is enough. -/
def BeanDecl.ofJson? (inFile : Bool) (j : Json) : Option BeanDecl := do
  let fields ← fields? ["name", "primary", "conditions", "autowired"] j
  return {
    name := ← fields.get "name" (asOptional? asString?) none
    primary := ← fields.get "primary" asBool? false
    conditions := ← fields.get "conditions" (asList? (Condition.ofJson? inFile)) []
    autowired := ← fields.get "autowired" asBool? false }

/-- A method. The field names are those of the format, which differ from those of the record in two
places. -/
def MethodDecl.ofJson? (inFile : Bool) (j : Json) : Option MethodDecl := do
  let fields ← fields?
    ["name", "parameters", "return_type", "visibility", "static", "bean", "inject", "required"] j
  return {
    name := ← fields.get "name" asString? ""
    parameters := ← fields.get "parameters" (asList? Parameter.ofJson?) []
    returnType := ← fields.get "return_type" TypeRef.ofJson? (.raw "void")
    visibility := ← fields.get "visibility" Visibility.ofJson? .publicAccess
    isStatic := ← fields.get "static" asBool? false
    bean := ← fields.get "bean" (asOptional? (BeanDecl.ofJson? inFile)) none
    inject := ← fields.get "inject" asBool? false
    required := ← fields.get "required" asBool? true }

/-- A field. It is private unless stated otherwise, unlike every other member. -/
def FieldDecl.ofJson? (j : Json) : Option FieldDecl := do
  let fields ← fields?
    ["name", "type", "visibility", "inject", "required", "qualifier", "value"] j
  return {
    name := ← fields.get "name" asString? ""
    type := ← fields.get "type" TypeRef.ofJson? (.raw "java.lang.Object")
    visibility := ← fields.get "visibility" Visibility.ofJson? .privateAccess
    inject := ← fields.get "inject" asBool? false
    required := ← fields.get "required" asBool? true
    qualifier := ← fields.get "qualifier" (asOptional? asString?) none
    value := ← fields.get "value" (asOptional? asString?) none }

/-! ### Types -/

/-- The context of a test class. All of its fields may be left out. -/
def TestContext.ofJson? (j : Json) : Option TestContext := do
  let fields ← fields? ["classes", "properties", "active_profiles"] j
  return {
    classes := ← fields.get "classes" asStrings? []
    properties := ← fields.get "properties" asStrings? []
    activeProfiles := ← fields.get "active_profiles" asStrings? [] }

/-- The names of the fields of a type. Their order is the one of records that are written as arrays.
-/
def TypeDecl.fieldNames : List String :=
  ["name", "kind", "visibility", "super_type", "interfaces", "annotations", "bean_name", "primary",
    "constructors", "methods", "fields", "conditions", "component_scan", "imports", "hints",
    "test_context"]

/-- The type that a record in a file or in a JSON value describes. The two differ only in
conditions, which a file may give as arrays. -/
def TypeDecl.ofRecord? (inFile : Bool) (j : Json) : Option TypeDecl := do
  let fields ← fields? fieldNames j
  return {
    name := ← fields.get "name" asString? ""
    kind := ← fields.get "kind" TypeKind.ofJson? .classKind
    visibility := ← fields.get "visibility" Visibility.ofJson? .publicAccess
    superType := ← fields.get "super_type" (asOptional? asString?) none
    interfaces := ← fields.get "interfaces" asStrings? []
    annotations := ← fields.get "annotations" asStrings? []
    beanName := ← fields.get "bean_name" (asOptional? asString?) none
    primary := ← fields.get "primary" asBool? false
    constructors := ← fields.get "constructors" (asList? ConstructorDecl.ofJson?) []
    methods := ← fields.get "methods" (asList? (MethodDecl.ofJson? inFile)) []
    fields := ← fields.get "fields" (asList? FieldDecl.ofJson?) []
    conditions := ← fields.get "conditions" (asList? (Condition.ofJson? inFile)) []
    componentScan := ← fields.get "component_scan" (asOptional? asStrings?) none
    imports := ← fields.get "imports" asStrings? []
    hints := ← fields.get "hints" (asList? NativeHint.ofJson?) []
    testContext := ← fields.get "test_context" (asOptional? TestContext.ofJson?) none }

/-- A type. It is the type of a JSON value that is no part of a file. -/
def TypeDecl.ofJson? : Json → Option TypeDecl :=
  ofRecord? false

/-- The types of a metadata file. The first type that is malformed spoils the whole file. -/
def TypeDecl.ofFile? (text : String) : Option (List TypeDecl) := do
  let fields ← fields? ["types"] (← Json.read? text)
  fields.get "types" (asList? (TypeDecl.ofRecord? true)) []

end StaticWiring
