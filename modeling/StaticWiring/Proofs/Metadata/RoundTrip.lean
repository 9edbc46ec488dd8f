import StaticWiring.Metadata.Decode
import StaticWiring.Metadata.Encode
import StaticWiring.Proofs.Json.Record
import StaticWiring.Proofs.TypeRef.Grammar

/-!
# Metadata is read back

The description of a type is written as a JSON value with every field of every record, and the value
as a text in one line or over many lines. Whoever reads the text finds the description again, in a
metadata file as in a value. For this, each type reference in the description must be one that can
be written: the names in it are names. Of all that a description holds, only the references are
written in a form of their own inside of strings.

## Main definitions

* `TypeDecl.HasNames` — the type references in the description of a type can be written.
* `TypeDecl.toFile` — the content of a metadata file.

## Main results

* `TypeDecl.ofRecord?_toJson` — the record of a type is read back.
* `TypeDecl.hasNumerals_toJson` — the record of a type can be read from its text.
* `TypeDecl.ofFile?_toFile` — types are read back from a metadata file.
-/

namespace StaticWiring

open Json

/-! ### Words and references -/

@[simp]
theorem Visibility.ofJson?_name (v : Visibility) : ofJson? (.string v.name) = some v := by
  cases v <;> rfl

@[simp]
theorem TypeKind.ofJson?_name (k : TypeKind) : ofJson? (.string k.name) = some k := by
  cases k <;> rfl

@[simp]
theorem Access.ofJson?_nat (a : Access) : ofJson? (.nat a.bits.toNat) = some a := by
  have small : (a.bits.toNat : Int) < UInt32.size := Int.ofNat_lt.2 a.bits.toNat_lt_size
  rw [ofJson?, nat, asNat?, if_pos ⟨Int.natCast_nonneg _, small⟩]
  simp

@[simp]
theorem Json.asOptional?_ofText (text : Option String) :
    asOptional? asString? (ofText text) = some text :=
  asOptional?_encoded nofun fun value _ => asString?_string value

@[simp]
theorem Json.hasNumerals_ofText (text : Option String) : (ofText text).HasNumerals :=
  hasNumerals_ofOption fun value _ => .string value

/-- A type reference is read back, if the names in it are names. Other names could be split where
the text of the reference is parsed. -/
theorem TypeRef.ofJson?_toJson {t : TypeRef} (names : t.HasNames) : ofJson? t.toJson = some t := by
  simp [ofJson?, toJson, names.parse_render, Except.toOption]

@[simp]
theorem TypeRef.hasNumerals_toJson (t : TypeRef) : t.toJson.HasNumerals :=
  .string _

/-! ### Hints -/

@[simp]
theorem MethodHint.ofJson?_toJson (m : MethodHint) : ofJson? m.toJson = some m := by
  simp [ofJson?, toJson, fields?_object]

@[simp]
theorem FieldHint.ofJson?_toJson (f : FieldHint) : ofJson? f.toJson = some f := by
  simp [ofJson?, toJson, fields?_object]

@[simp]
theorem TypeHint.ofJson?_toJson (h : TypeHint) : ofJson? h.toJson = some h := by
  simp [ofJson?, toJson, fields?_object, asList?_encoded]

@[simp]
theorem ProxyHint.ofJson?_toJson (h : ProxyHint) : ofJson? h.toJson = some h := by
  simp [ofJson?, toJson, fields?_object]

@[simp]
theorem ResourceHint.ofJson?_toJson (h : ResourceHint) : ofJson? h.toJson = some h := by
  simp [ofJson?, toJson, fields?_object]

/-- A group of hints is read back. Groups that are left out are empty. -/
@[simp]
theorem NativeHint.ofJson?_toJson (h : NativeHint) : ofJson? h.toJson = some h := by
  simp [ofJson?, toJson, fields?_object, asList?_encoded]

/-! ### Conditions and test contexts -/

/-- A condition is read back, in a file and in a value. The two differ in the names of some keys,
and either form is understood. -/
@[simp]
theorem Condition.ofJson?_toJson (inFile : Bool) (c : Condition) :
    ofJson? inFile c.toJson = some c := by
  cases c with
  | onProperty name expected ifMissing => cases inFile <;> cases expected <;> rfl
  | onProfile expressions => simp [ofJson?, toJson]
  | onClass types => simp [ofJson?, toJson]
  | onMissingClass types => simp [ofJson?, toJson]
  | onBean type => simp [ofJson?, toJson]
  | onMissingBean type => simp [ofJson?, toJson]

@[simp]
theorem BeanDecl.ofJson?_toJson (inFile : Bool) (b : BeanDecl) :
    ofJson? inFile b.toJson = some b := by
  simp [ofJson?, toJson, fields?_object, asList?_encoded]

@[simp]
theorem TestContext.ofJson?_toJson (t : TestContext) : ofJson? t.toJson = some t := by
  simp [ofJson?, toJson, fields?_object]

/-! ### Members -/

/-- The names in the type references of a constructor are names. Everything else in a constructor is
kept whatever it is. -/
def ConstructorDecl.HasNames (c : ConstructorDecl) : Prop :=
  ∀ p ∈ c.parameters, p.type.HasNames

/-- The names in the type references of a method are names. The name of the method is written as it
is. -/
structure MethodDecl.HasNames (m : MethodDecl) : Prop where
  /-- The types of the parameters. -/
  parameters : ∀ p ∈ m.parameters, p.type.HasNames
  /-- The type of the result. -/
  returnType : m.returnType.HasNames

theorem Parameter.ofJson?_toJson {p : Parameter} (names : p.type.HasNames) :
    ofJson? p.toJson = some p := by
  simp [ofJson?, toJson, fields?_object, TypeRef.ofJson?_toJson names]

theorem Parameter.asList?_map_toJson {ps : List Parameter} (names : ∀ p ∈ ps, p.type.HasNames) :
    asList? ofJson? (.array (ps.map toJson)) = some ps :=
  asList?_encoded fun p given => ofJson?_toJson (names p given)

theorem ConstructorDecl.ofJson?_toJson {c : ConstructorDecl} (names : c.HasNames) :
    ofJson? c.toJson = some c := by
  simp [ofJson?, toJson, fields?_object, Parameter.asList?_map_toJson names]

theorem MethodDecl.ofJson?_toJson (inFile : Bool) {m : MethodDecl} (names : m.HasNames) :
    ofJson? inFile m.toJson = some m := by
  have bean : asOptional? (BeanDecl.ofJson? inFile) (ofOption BeanDecl.toJson m.bean) =
      some m.bean :=
    asOptional?_encoded nofun fun b _ => b.ofJson?_toJson inFile
  simp [ofJson?, toJson, fields?_object, Parameter.asList?_map_toJson names.parameters,
    TypeRef.ofJson?_toJson names.returnType, bean]

theorem FieldDecl.ofJson?_toJson {f : FieldDecl} (names : f.type.HasNames) :
    ofJson? f.toJson = some f := by
  simp [ofJson?, toJson, fields?_object, TypeRef.ofJson?_toJson names]

/-! ### Types -/

/-- The names in the type references of a type are names. It is the only condition on a type. -/
structure TypeDecl.HasNames (t : TypeDecl) : Prop where
  /-- The references of the constructors. -/
  constructors : ∀ c ∈ t.constructors, c.HasNames
  /-- The references of the methods. -/
  methods : ∀ m ∈ t.methods, m.HasNames
  /-- The types of the fields. -/
  fields : ∀ f ∈ t.fields, f.type.HasNames

namespace TypeDecl

variable {t : TypeDecl} {types : List TypeDecl}

theorem nodup_fieldNames : fieldNames.Nodup := by
  decide

theorem ofRecord?_toJson (names : t.HasNames) (inFile : Bool) :
    ofRecord? inFile t.toJson = some t := by
  have constructors : asList? ConstructorDecl.ofJson?
      (.array (t.constructors.map ConstructorDecl.toJson)) = some t.constructors :=
    asList?_encoded fun c given => ConstructorDecl.ofJson?_toJson (names.constructors c given)
  have methods : asList? (MethodDecl.ofJson? inFile) (.array (t.methods.map MethodDecl.toJson)) =
      some t.methods :=
    asList?_encoded fun m given => MethodDecl.ofJson?_toJson inFile (names.methods m given)
  have fields : asList? FieldDecl.ofJson? (.array (t.fields.map FieldDecl.toJson)) =
      some t.fields :=
    asList?_encoded fun f given => FieldDecl.ofJson?_toJson (names.fields f given)
  have scanned : asOptional? asStrings? (ofOption strings t.componentScan) =
      some t.componentScan :=
    asOptional?_encoded nofun fun packages _ => asStrings?_strings packages
  have context : asOptional? TestContext.ofJson? (ofOption TestContext.toJson t.testContext) =
      some t.testContext :=
    asOptional?_encoded nofun fun context _ => context.ofJson?_toJson
  rw [ofRecord?, toJson, fields?_object nodup_fieldNames (List.Sublist.refl _),
    Option.bind_eq_bind, Option.bind_some]
  -- First each field is found among the members, and only then is it decoded.
  simp only [Fields.get_cons_self, Fields.get_cons_of_ne, ne_eq, String.reduceEq,
    not_false_eq_true]
  simp only [asString?_string, asBool?_bool, asOptional?_ofText, asStrings?_strings,
    TypeKind.ofJson?_name, Visibility.ofJson?_name, Condition.ofJson?_toJson,
    NativeHint.ofJson?_toJson, implies_true, asList?_encoded, constructors, methods, fields,
    scanned, context]
  rfl

end TypeDecl

/-! ### Texts -/

@[simp]
theorem MethodHint.hasNumerals_toJson (m : MethodHint) : m.toJson.HasNumerals := by
  simp [toJson, hasNumerals_object_iff]

@[simp]
theorem FieldHint.hasNumerals_toJson (f : FieldHint) : f.toJson.HasNumerals := by
  simp [toJson, hasNumerals_object_iff]

@[simp]
theorem TypeHint.hasNumerals_toJson (h : TypeHint) : h.toJson.HasNumerals := by
  simp [toJson, hasNumerals_object_iff]

@[simp]
theorem ProxyHint.hasNumerals_toJson (h : ProxyHint) : h.toJson.HasNumerals := by
  simp [toJson, hasNumerals_object_iff]

@[simp]
theorem ResourceHint.hasNumerals_toJson (h : ResourceHint) : h.toJson.HasNumerals := by
  simp [toJson, hasNumerals_object_iff]

@[simp]
theorem NativeHint.hasNumerals_toJson (h : NativeHint) : h.toJson.HasNumerals := by
  simp [toJson, hasNumerals_object_iff]

@[simp]
theorem Parameter.hasNumerals_toJson (p : Parameter) : p.toJson.HasNumerals := by
  simp [toJson, hasNumerals_object_iff]

@[simp]
theorem ConstructorDecl.hasNumerals_toJson (c : ConstructorDecl) : c.toJson.HasNumerals := by
  simp [toJson, hasNumerals_object_iff]

@[simp]
theorem Condition.hasNumerals_toJson (c : Condition) : c.toJson.HasNumerals := by
  cases c <;> simp [toJson, hasNumerals_object_iff]

@[simp]
theorem BeanDecl.hasNumerals_toJson (b : BeanDecl) : b.toJson.HasNumerals := by
  simp [toJson, hasNumerals_object_iff]

@[simp]
theorem MethodDecl.hasNumerals_toJson (m : MethodDecl) : m.toJson.HasNumerals := by
  simp [toJson, hasNumerals_object_iff]

@[simp]
theorem FieldDecl.hasNumerals_toJson (f : FieldDecl) : f.toJson.HasNumerals := by
  simp [toJson, hasNumerals_object_iff]

@[simp]
theorem TestContext.hasNumerals_toJson (t : TestContext) : t.toJson.HasNumerals := by
  simp [toJson, hasNumerals_object_iff]

namespace TypeDecl

@[simp]
theorem hasNumerals_toJson (t : TypeDecl) : t.toJson.HasNumerals := by
  simp [toJson, hasNumerals_object_iff]

/-- The content of a metadata file. It is the form in which files are read, with all types in one
list. -/
def toFile (types : List TypeDecl) : Json :=
  .object [("types", .array (types.map toJson))]

theorem ofFile?_of_read? {text : String} (names : ∀ t ∈ types, t.HasNames)
    (read : Json.read? text = some (toFile types)) : ofFile? text = some types := by
  have listed : asList? (ofRecord? true) (.array (types.map toJson)) = some types :=
    asList?_encoded fun t given => ofRecord?_toJson (names t given) true
  simp [ofFile?, read, toFile, fields?_object, listed]

/-- Types whose references are made of names are read back: each from its record, in a file and in
a value, and from the text of the record in one line and over many lines, and all of them from the
text of a metadata file. -/
theorem ofFile?_toFile (names : ∀ t ∈ types, t.HasNames) :
    (∀ t ∈ types, ∀ inFile, ofRecord? inFile t.toJson = some t ∧
      (Json.read? t.toJson.compact).bind (ofRecord? inFile) = some t ∧
      (Json.read? (t.toJson.pretty ++ "\n")).bind (ofRecord? inFile) = some t) ∧
    ofFile? (toFile types).compact = some types ∧
    ofFile? ((toFile types).pretty ++ "\n") = some types := by
  have numerals : (toFile types).HasNumerals := by
    simp [toFile, hasNumerals_object_iff]
  refine ⟨fun t given inFile => ?_, ?_, ?_⟩
  · have record := ofRecord?_toJson (names t given) inFile
    rw [read?_compact t.hasNumerals_toJson, read?_pretty t.hasNumerals_toJson, Option.bind_some]
    exact ⟨record, record, record⟩
  · exact ofFile?_of_read? names (read?_compact numerals)
  · exact ofFile?_of_read? names (read?_pretty numerals)

namespace Sample

/-- A class with a constructor, a factory method under conditions, a field, hints and a context.
Every part of a record is given, and none has its default. -/
def shop : TypeDecl where
  name := "com.example.Shop"
  visibility := .packageAccess
  superType := some "com.example.Store"
  annotations := ["org.springframework.stereotype.Service"]
  constructors := [{
    parameters := [{
      name := "prices"
      type := TypeRef.Sample.nestedRef
      qualifier := some "daily"
      required := false }]
    autowired := true }]
  methods := [{
    name := "till"
    returnType := TypeRef.Sample.nestedRef
    isStatic := true
    bean := some {
      primary := true
      conditions := [.onProperty "till.size" (some "2") true, .onProfile ["!test"],
        .onClass ["com.example.Drawer"], .onMissingClass [], .onBean "com.example.Key",
        .onMissingBean "com.example.Till"] } }]
  fields := [{
    name := "stock"
    type := TypeRef.Sample.nestedRef
    visibility := .protectedAccess
    value := some "\"none\"" }]
  componentScan := some []
  imports := ["com.example.Config"]
  hints := [{
    trigger := some "com.example.Drawer"
    types := [{
      types := ["com.example.Till"]
      access := .loadType
      methods := [{ name := "<init>" }]
      fields := [{ name := "sum", allowWrite := true }] }]
    jniTypes := [{}]
    proxies := [{ interfaces := ["com.example.Key"] }]
    resources := [{ patterns := ["till/.*"], bundles := ["labels"] }]
    serializables := ["com.example.Sum"] }]
  testContext := some { properties := ["till.size=2"] }

theorem hasNames_shop : shop.HasNames where
  constructors := List.forall_mem_singleton.2
    (List.forall_mem_singleton.2 TypeRef.Sample.hasNames_nestedRef)
  methods := List.forall_mem_singleton.2
    ⟨List.forall_mem_nil _, TypeRef.Sample.hasNames_nestedRef⟩
  fields := List.forall_mem_singleton.2 TypeRef.Sample.hasNames_nestedRef

end Sample

theorem ofFile?_toFile_shop :
    (∀ t ∈ [Sample.shop], t.HasNames) ∧
    ofFile? (toFile [Sample.shop]).compact = some [Sample.shop] := by
  have names : ∀ t ∈ [Sample.shop], t.HasNames := List.forall_mem_singleton.2 Sample.hasNames_shop
  exact ⟨names, (ofFile?_toFile names).2.1⟩

end TypeDecl

end StaticWiring
