import StaticWiring.Json.Basic
import StaticWiring.Metadata.Basic

/-!
# Writing metadata

Metadata is written with every field of every record in the order of
`StaticWiring.Metadata.Basic`, with `null` for what is absent.

## Main definitions

* `TypeDecl.toJson`, `NativeHint.toJson`, `Condition.toJson` — the parts of metadata.
-/

namespace StaticWiring

open Json

/-- The name of a visibility. It is the word that the reader takes back. -/
def Visibility.name : Visibility → String
  | publicAccess => "public"
  | protectedAccess => "protected"
  | packageAccess => "package"
  | privateAccess => "private"

/-- The name of a kind. It is the word that the reader takes back. -/
def TypeKind.name : TypeKind → String
  | classKind => "class"
  | interfaceKind => "interface"
  | annotationKind => "annotation"
  | enumKind => "enum"

/-- An optional string. It is never left out: an absent one is `null`. -/
def Json.ofText (text : Option String) : Json :=
  Json.ofOption Json.string text

/-- A type reference as its text. Reading the text gives the reference back as long as its names are
ones that references may have. -/
def TypeRef.toJson (t : TypeRef) : Json :=
  .string t.render

/-! ### Hints -/

/-- A method of a hint. Both fields are written, also where they have their defaults. -/
def MethodHint.toJson (m : MethodHint) : Json :=
  .object [("name", .string m.name), ("parameter_types", .strings m.parameterTypes)]

/-- A field of a hint. Both fields are written, also where they have their defaults. -/
def FieldHint.toJson (f : FieldHint) : Json :=
  .object [("name", .string f.name), ("allow_write", .bool f.allowWrite)]

/-- The access to some types. The access is written as the number of its bits. -/
def TypeHint.toJson (h : TypeHint) : Json :=
  .object [("types", .strings h.types), ("access", .nat h.access.bits.toNat),
    ("methods", .array (h.methods.map MethodHint.toJson)),
    ("fields", .array (h.fields.map FieldHint.toJson))]

/-- A proxy. The field of the interfaces is called `types`, as it is in hints. -/
def ProxyHint.toJson (h : ProxyHint) : Json :=
  .object [("types", .strings h.interfaces)]

/-- Resources. Both lists are written, also where they are empty. -/
def ResourceHint.toJson (h : ResourceHint) : Json :=
  .object [("patterns", .strings h.patterns), ("bundles", .strings h.bundles)]

/-- A group of hints. An absent trigger is written as `null`. -/
def NativeHint.toJson (h : NativeHint) : Json :=
  .object [("trigger", .ofText h.trigger), ("types", .array (h.types.map TypeHint.toJson)),
    ("jni_types", .array (h.jniTypes.map TypeHint.toJson)),
    ("proxies", .array (h.proxies.map ProxyHint.toJson)),
    ("resources", .array (h.resources.map ResourceHint.toJson)),
    ("serializables", .strings h.serializables)]

/-! ### Members -/

/-- A parameter. Absent parts are written as `null`, so that every parameter has the same fields. -/
def Parameter.toJson (p : Parameter) : Json :=
  .object [("name", .string p.name), ("type", p.type.toJson), ("qualifier", .ofText p.qualifier),
    ("value", .ofText p.value), ("required", .bool p.required)]

/-- A constructor. It has no name of its own. -/
def ConstructorDecl.toJson (c : ConstructorDecl) : Json :=
  .object [("parameters", .array (c.parameters.map Parameter.toJson)),
    ("visibility", .string c.visibility.name), ("autowired", .bool c.autowired)]

/-- A condition. Its kind is the only key of the object, and what it depends on is the value. -/
def Condition.toJson : Condition → Json
  | onProperty name expected ifMissing =>
    .object [("on_property", .object [("name", .string name), ("having_value", .ofText expected),
      ("match_if_missing", .bool ifMissing)])]
  | onProfile expressions => .object [("on_profile", .strings expressions)]
  | onClass types => .object [("on_class", .strings types)]
  | onMissingClass types => .object [("on_missing_class", .strings types)]
  | onBean type => .object [("on_bean", .string type)]
  | onMissingBean type => .object [("on_missing_bean", .string type)]

/-- What makes a method a factory method. It is the part of a method that is written under `bean`.
-/
def BeanDecl.toJson (b : BeanDecl) : Json :=
  .object [("name", .ofText b.name), ("primary", .bool b.primary),
    ("conditions", .array (b.conditions.map Condition.toJson)), ("autowired", .bool b.autowired)]

/-- A method. A method that is no factory method has the value `null` for that part. -/
def MethodDecl.toJson (m : MethodDecl) : Json :=
  .object [("name", .string m.name), ("parameters", .array (m.parameters.map Parameter.toJson)),
    ("return_type", m.returnType.toJson), ("visibility", .string m.visibility.name),
    ("static", .bool m.isStatic), ("bean", .ofOption BeanDecl.toJson m.bean),
    ("inject", .bool m.inject), ("required", .bool m.required)]

/-- A field. Its fields stand in the order of the format. -/
def FieldDecl.toJson (f : FieldDecl) : Json :=
  .object [("name", .string f.name), ("type", f.type.toJson),
    ("visibility", .string f.visibility.name), ("inject", .bool f.inject),
    ("required", .bool f.required), ("qualifier", .ofText f.qualifier), ("value", .ofText f.value)]

/-! ### Types -/

/-- The context of a test class. It is written only for types that have one. -/
def TestContext.toJson (t : TestContext) : Json :=
  .object [("classes", .strings t.classes), ("properties", .strings t.properties),
    ("active_profiles", .strings t.activeProfiles)]

/-- A type. Every field is written, so that the record can be read without any defaults. -/
def TypeDecl.toJson (t : TypeDecl) : Json :=
  .object [("name", .string t.name), ("kind", .string t.kind.name),
    ("visibility", .string t.visibility.name), ("super_type", .ofText t.superType),
    ("interfaces", .strings t.interfaces), ("annotations", .strings t.annotations),
    ("bean_name", .ofText t.beanName), ("primary", .bool t.primary),
    ("constructors", .array (t.constructors.map ConstructorDecl.toJson)),
    ("methods", .array (t.methods.map MethodDecl.toJson)),
    ("fields", .array (t.fields.map FieldDecl.toJson)),
    ("conditions", .array (t.conditions.map Condition.toJson)),
    ("component_scan", .ofOption Json.strings t.componentScan), ("imports", .strings t.imports),
    ("hints", .array (t.hints.map NativeHint.toJson)),
    ("test_context", .ofOption TestContext.toJson t.testContext)]

end StaticWiring
