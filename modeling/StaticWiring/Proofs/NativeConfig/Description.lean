import StaticWiring.NativeConfig.Descriptor
import StaticWiring.Proofs.Json.Record
import StaticWiring.Proofs.Lists
import StaticWiring.Proofs.NativeConfig.Facts

/-!
# What the descriptors tell

The files that are written for a configuration tell all of it that the native image reads: the types
with the eight flags for their constructors, methods and fields, the methods and fields that are
named, the proxies, the resources and bundles, and the types that are serialized. A reader of the
files that knows the names of the files and of their members, and takes a member that is left out as
false or empty, finds the configuration again.

## Main definitions

* `DescribedType`, `Description` — what the files tell.
* `Description.ofFiles?` — the reader.
* `NativeConfig.description` — what is to be told of a configuration.
* `NativeConfig.categories` — the files in their order.

## Main results

* `NativeConfig.ofEntry?_typeEntry` — the entry of a type is read back.
* `NativeConfig.names_descriptors` — which files are written.
* `NativeConfig.ofFiles?_descriptors` — the files are read back.
* `NativeConfig.descriptors_tell` — the files that are written, and what they tell.
-/

namespace StaticWiring

open Json

/-! ### Reading the files -/

/-- What a file tells of the access to a type. It is what can be read there, independently of how it
was requested. -/
structure DescribedType where
  /-- The name of the type. -/
  name : String
  /-- All of its own constructors. -/
  allDeclaredConstructors : Bool
  /-- All public constructors. -/
  allPublicConstructors : Bool
  /-- All of its own methods. -/
  allDeclaredMethods : Bool
  /-- All public methods. -/
  allPublicMethods : Bool
  /-- All of its own fields. -/
  allDeclaredFields : Bool
  /-- All public fields. -/
  allPublicFields : Bool
  /-- The list of its own methods. -/
  queryAllDeclaredMethods : Bool
  /-- The list of public methods. -/
  queryAllPublicMethods : Bool
  /-- The methods that are named. -/
  methods : List MethodHint
  /-- The fields that are named, and whether they are written. -/
  fields : List FieldHint
deriving DecidableEq

/-- What the files tell. A file that is absent tells that there is nothing of its kind. -/
structure Description where
  /-- The types that are accessed by reflection. -/
  reflection : List DescribedType
  /-- The types that are accessed from native code. -/
  jni : List DescribedType
  /-- The interfaces of the proxies. -/
  proxies : List (List String)
  /-- The patterns for resources. -/
  patterns : List String
  /-- The base names of the resource bundles. -/
  bundles : List String
  /-- The types that are serialized. -/
  serialization : List String
deriving DecidableEq

/-- A method. Both members have to be there. -/
def MethodHint.ofEntry? (j : Json) : Option MethodHint := do
  let fields ← fields? ["name", "parameterTypes"] j
  let name ← fields.require "name" asString?
  let parameterTypes ← fields.require "parameterTypes" asStrings?
  return { name, parameterTypes }

/-- A field, which is not written unless the entry says so. The name has to be there. -/
def FieldHint.ofEntry? (j : Json) : Option FieldHint := do
  let fields ← fields? ["name", "allowWrite"] j
  let name ← fields.require "name" asString?
  let allowWrite ← fields.get "allowWrite" asBool? false
  return { name, allowWrite }

/-- The keys of the entry of a type. Other keys are refused. -/
def DescribedType.keys : List String :=
  ["name", "allDeclaredConstructors", "allPublicConstructors", "allDeclaredMethods",
    "allPublicMethods", "allDeclaredFields", "allPublicFields", "queryAllDeclaredMethods",
    "queryAllPublicMethods", "methods", "fields"]

/-- A type, with the flags and lists that the entry gives. What is left out is false or empty. -/
def DescribedType.ofEntry? (j : Json) : Option DescribedType := do
  let fields ← fields? keys j
  let flag (key : String) : Option Bool := fields.get key asBool? false
  return {
    name := ← fields.require "name" asString?
    allDeclaredConstructors := ← flag "allDeclaredConstructors"
    allPublicConstructors := ← flag "allPublicConstructors"
    allDeclaredMethods := ← flag "allDeclaredMethods"
    allPublicMethods := ← flag "allPublicMethods"
    allDeclaredFields := ← flag "allDeclaredFields"
    allPublicFields := ← flag "allPublicFields"
    queryAllDeclaredMethods := ← flag "queryAllDeclaredMethods"
    queryAllPublicMethods := ← flag "queryAllPublicMethods"
    methods := ← fields.get "methods" (asList? MethodHint.ofEntry?) []
    fields := ← fields.get "fields" (asList? FieldHint.ofEntry?) [] }

namespace Description

/-- The value of the only member of a record. There may be no other member. -/
def ofMember? {α : Type} (key : String) (decode : Json → Option α) (j : Json) : Option α := do
  (← fields? [key] j).require key decode

/-- The patterns and the bundles of the record of resources. The bundles may be left out. -/
def resources? (j : Json) : Option (List String × List String) := do
  let fields ← fields? ["resources", "bundles"] j
  let patterns ← fields.require "resources"
    (ofMember? "includes" (asList? (ofMember? "pattern" asString?)))
  let bundles ← fields.get "bundles" (asList? (ofMember? "name" asString?)) []
  return (patterns, bundles)

/-- The content of the file with a name, `absent` if there is none. A file that is there has to be a
JSON text of the right form. -/
def content? {α : Type} (files : List (String × String)) (name : String)
    (decode : Json → Option α) (absent : α) : Option α :=
  match files.lookup name with
  | none => some absent
  | some text => (Json.read? text).bind decode

/-- What the files tell, if all of them can be read. No file may be malformed, even if another one
is fine. -/
def ofFiles? (files : List (String × String)) : Option Description := do
  let reflection ← content? files "reflect-config.json" (asList? DescribedType.ofEntry?) []
  let jni ← content? files "jni-config.json" (asList? DescribedType.ofEntry?) []
  let proxies ← content? files "proxy-config.json" (asList? (ofMember? "interfaces" asStrings?)) []
  let (patterns, bundles) ← content? files "resource-config.json" resources? ([], [])
  let serialization ← content? files "serialization-config.json"
    (asList? (ofMember? "name" asString?)) []
  return { reflection, jni, proxies, patterns, bundles, serialization }

end Description

/-! ### Telling a configuration -/

/-- What is to be told of the access to a type. Each flag of the file is one bit of the access. -/
def TypeAccess.description (type : String) (t : TypeAccess) : DescribedType where
  name := type
  allDeclaredConstructors := t.access.contains .declaredConstructors
  allPublicConstructors := t.access.contains .publicConstructors
  allDeclaredMethods := t.access.contains .declaredMethods
  allPublicMethods := t.access.contains .publicMethods
  allDeclaredFields := t.access.contains .declaredFields
  allPublicFields := t.access.contains .publicFields
  queryAllDeclaredMethods := t.access.contains .listDeclaredMethods
  queryAllPublicMethods := t.access.contains .listPublicMethods
  methods := t.methods
  fields := t.fields.map fun (name, allowWrite) => { name, allowWrite }

/-- What is to be told of a configuration. Nothing of the configuration is left out. -/
def NativeConfig.description (config : NativeConfig) : Description where
  reflection := config.reflection.map fun (type, t) => t.description type
  jni := config.jni.map fun (type, t) => t.description type
  proxies := config.proxies
  patterns := config.patterns
  bundles := config.bundles
  serialization := config.serialization

/-- The names of the files in their order, and whether there is something to be told in them. A
category without entries has no file. -/
def NativeConfig.categories (config : NativeConfig) : List (String × Bool) :=
  [("reflect-config.json", !config.reflection.isEmpty), ("jni-config.json", !config.jni.isEmpty),
    ("proxy-config.json", !config.proxies.isEmpty),
    ("resource-config.json", !config.patterns.isEmpty || !config.bundles.isEmpty),
    ("serialization-config.json", !config.serialization.isEmpty)]

/-! ### Entries -/

namespace Description

theorem ofMember?_object {α : Type} (key : String) (decode : Json → Option α) (value : Json) :
    ofMember? key decode (.object [(key, value)]) = decode value := by
  have nodup : ([(key, some value)].map Prod.fst).Nodup := List.nodup_singleton key
  have given : fields? [key] (.object [(key, value)]) = some ⟨[(key, value)]⟩ :=
    fields?_ofSlots nodup
  rw [ofMember?, given]
  exact Fields.require_ofSlots nodup List.mem_cons_self decode

end Description

namespace NativeConfig

theorem flagMember_eq (key : String) (value : Bool) :
    flagMember key value = ofSlots [(key, flagSlot value)] := by
  cases value <;> rfl

theorem listMember_eq (key : String) (items : List Json) :
    listMember key items = ofSlots [(key, listSlot items)] := by
  cases items <;> rfl

theorem ofEntry?_methodEntry (m : MethodHint) : MethodHint.ofEntry? (methodEntry m) = some m := by
  let slots :=
    [("name", some (.string m.name)), ("parameterTypes", some (strings m.parameterTypes))]
  have nodup : (slots.map Prod.fst).Nodup := by
    simp [slots]
  have given : fields? ["name", "parameterTypes"] (methodEntry m) = some ⟨ofSlots slots⟩ :=
    fields?_ofSlots nodup
  have named := Fields.require_ofSlots nodup List.mem_cons_self asString?
  have typed := Fields.require_ofSlots nodup (List.mem_cons_of_mem _ List.mem_cons_self) asStrings?
  rw [asStrings?_strings] at typed
  simp only [MethodHint.ofEntry?, given, named, typed, Option.bind_eq_bind, Option.bind_some]
  rfl

theorem ofEntry?_fieldEntry (name : String) (allowWrite : Bool) :
    FieldHint.ofEntry? (fieldEntry name allowWrite) = some { name, allowWrite } := by
  let slots := [("name", some (.string name)), ("allowWrite", flagSlot allowWrite)]
  have nodup : (slots.map Prod.fst).Nodup := by
    simp [slots]
  have given : fields? ["name", "allowWrite"] (fieldEntry name allowWrite) =
      some ⟨ofSlots slots⟩ := by
    rw [fieldEntry, flagMember_eq]
    exact fields?_ofSlots nodup
  have named := Fields.require_ofSlots nodup List.mem_cons_self asString?
  have written := Fields.get_ofSlots nodup (List.mem_cons_of_mem _ List.mem_cons_self) asBool? false
  rw [elim_flagSlot] at written
  simp only [FieldHint.ofEntry?, given, named, written, Option.bind_eq_bind, Option.bind_some]
  rfl

/-- The members of the entry of a type. Flags that are not set and empty lists have none. -/
def typeSlots (type : String) (t : TypeAccess) : List (String × Option Json) :=
  ("name", some (.string type)) ::
    (flagNames.map fun (key, bit) => (key, flagSlot (t.access.contains bit))) ++
    [("methods", listSlot (t.methods.map methodEntry)),
      ("fields", listSlot (t.fields.map fun (name, allowWrite) => fieldEntry name allowWrite))]

theorem typeEntry_eq (type : String) (t : TypeAccess) :
    typeEntry type t = .object (ofSlots (typeSlots type t)) := by
  simp [typeEntry, typeSlots, flagNames, flagMember_eq, listMember_eq, ofSlots]

/-- The entry of a type is read back. It is so for every access, with all of its bits. -/
theorem ofEntry?_typeEntry (type : String) (t : TypeAccess) :
    DescribedType.ofEntry? (typeEntry type t) = some (t.description type) := by
  have nodup : ((typeSlots type t).map Prod.fst).Nodup := by
    simp [typeSlots, flagNames]
  have given : fields? DescribedType.keys (typeEntry type t) =
      some ⟨ofSlots (typeSlots type t)⟩ := by
    rw [typeEntry_eq]
    exact fields?_ofSlots nodup
  have named := Fields.require_ofSlots nodup List.mem_cons_self asString?
  -- A bit that is not set leaves its slot empty, which is read as the default.
  have flag {key : String} {bit : Access} (listed : (key, bit) ∈ flagNames) :
      Fields.get ⟨ofSlots (typeSlots type t)⟩ key asBool? false =
        some (t.access.contains bit) := by
    have member : (key, flagSlot (t.access.contains bit)) ∈ typeSlots type t :=
      List.mem_append_left _ (List.mem_cons_of_mem _ (List.mem_map.2 ⟨_, listed, rfl⟩))
    rw [Fields.get_ofSlots nodup member, elim_flagSlot]
  have methods : Fields.get ⟨ofSlots (typeSlots type t)⟩ "methods"
      (asList? MethodHint.ofEntry?) [] = some t.methods := by
    have member : ("methods", listSlot (t.methods.map methodEntry)) ∈ typeSlots type t :=
      List.mem_append_right _ List.mem_cons_self
    rw [Fields.get_ofSlots nodup member, elim_listSlot ofEntry?_methodEntry, List.map_id']
  have fields : Fields.get ⟨ofSlots (typeSlots type t)⟩ "fields"
      (asList? FieldHint.ofEntry?) [] = some (t.description type).fields := by
    have member : ("fields", listSlot (t.fields.map fun (name, allowWrite) =>
        fieldEntry name allowWrite)) ∈ typeSlots type t :=
      List.mem_append_right _ (List.mem_cons_of_mem _ List.mem_cons_self)
    rw [Fields.get_ofSlots nodup member]
    exact elim_listSlot (fun (name, allowWrite) => ofEntry?_fieldEntry name allowWrite) t.fields
  simp only [DescribedType.ofEntry?, given, named, methods, fields, Option.bind_eq_bind,
    Option.bind_some,
    flag (by decide : ("allDeclaredConstructors", Access.declaredConstructors) ∈ flagNames),
    flag (by decide : ("allPublicConstructors", Access.publicConstructors) ∈ flagNames),
    flag (by decide : ("allDeclaredMethods", Access.declaredMethods) ∈ flagNames),
    flag (by decide : ("allPublicMethods", Access.publicMethods) ∈ flagNames),
    flag (by decide : ("allDeclaredFields", Access.declaredFields) ∈ flagNames),
    flag (by decide : ("allPublicFields", Access.publicFields) ∈ flagNames),
    flag (by decide : ("queryAllDeclaredMethods", Access.listDeclaredMethods) ∈ flagNames),
    flag (by decide : ("queryAllPublicMethods", Access.listPublicMethods) ∈ flagNames)]
  rfl

/-- The slot of the entries of types. It is empty if there are no types. -/
def typeSlot (types : List (String × TypeAccess)) : Option Json :=
  listSlot (types.map fun t => typeEntry t.1 t.2)

theorem elim_typeSlot (types : List (String × TypeAccess)) :
    (typeSlot types).elim (some []) (asList? DescribedType.ofEntry?) =
      some (types.map fun (type, t) => t.description type) :=
  elim_listSlot (fun t : String × TypeAccess => ofEntry?_typeEntry t.1 t.2) types

theorem ofMember?_nameEntry (name : String) :
    Description.ofMember? "name" asString? (nameEntry name) = some name :=
  Description.ofMember?_object "name" asString? (.string name)

/-- The entry of a proxy. Their order is kept, since it is part of the proxy. -/
def proxyEntry (interfaces : List String) : Json :=
  .object [("interfaces", strings interfaces)]

theorem ofMember?_proxyEntry (interfaces : List String) :
    Description.ofMember? "interfaces" asStrings? (proxyEntry interfaces) = some interfaces := by
  rw [proxyEntry, Description.ofMember?_object, asStrings?_strings]

theorem resources?_resourceRecord (patterns bundles : List String) :
    Description.resources? (resourceRecord patterns bundles) = some (patterns, bundles) := by
  let includes := Json.array (patterns.map fun pattern => .object [("pattern", .string pattern)])
  let slots := [("resources", some (.object [("includes", includes)])),
    ("bundles", listSlot (bundles.map nameEntry))]
  have nodup : (slots.map Prod.fst).Nodup := by
    simp [slots]
  have given : fields? ["resources", "bundles"] (resourceRecord patterns bundles) =
      some ⟨ofSlots slots⟩ := by
    rw [resourceRecord, listMember_eq]
    exact fields?_ofSlots nodup
  have included : Fields.require ⟨ofSlots slots⟩ "resources" (Description.ofMember? "includes"
      (asList? (Description.ofMember? "pattern" asString?))) = some patterns := by
    have all (pattern : String) :=
      Description.ofMember?_object "pattern" asString? (.string pattern)
    rw [Fields.require_ofSlots nodup List.mem_cons_self, Description.ofMember?_object,
      asList?_map fun pattern _ => all pattern, List.map_id']
  have bundled : Fields.get ⟨ofSlots slots⟩ "bundles"
      (asList? (Description.ofMember? "name" asString?)) [] = some bundles := by
    rw [Fields.get_ofSlots nodup (List.mem_cons_of_mem _ List.mem_cons_self),
      elim_listSlot ofMember?_nameEntry, List.map_id']
  simp only [Description.resources?, given, included, bundled, Option.bind_eq_bind,
    Option.bind_some]
  rfl

/-- The slot of the record of resources. It is there if either of the two is. -/
def resourceSlot (patterns bundles : List String) : Option Json :=
  if patterns.isEmpty && bundles.isEmpty then none else some (resourceRecord patterns bundles)

theorem elim_resourceSlot (patterns bundles : List String) :
    (resourceSlot patterns bundles).elim (some ([], [])) Description.resources? =
      some (patterns, bundles) := by
  rw [resourceSlot]
  split
  · next nothing =>
    obtain ⟨patterns, bundles⟩ := Bool.and_eq_true_iff.1 nothing
    rw [List.isEmpty_iff.1 patterns, List.isEmpty_iff.1 bundles]
    rfl
  · exact resources?_resourceRecord patterns bundles

theorem isSome_resourceSlot (patterns bundles : List String) :
    (resourceSlot patterns bundles).isSome = (!patterns.isEmpty || !bundles.isEmpty) := by
  rw [resourceSlot]
  cases patterns.isEmpty <;> cases bundles.isEmpty <;> rfl

/-! ### Files -/

/-- The files by their names, without those in which there is nothing to be told. They are in the
order in which the files are written. -/
def fileSlots (config : NativeConfig) : List (String × Option Json) :=
  [("reflect-config.json", typeSlot config.reflection), ("jni-config.json", typeSlot config.jni),
    ("proxy-config.json", listSlot (config.proxies.map proxyEntry)),
    ("resource-config.json", resourceSlot config.patterns config.bundles),
    ("serialization-config.json", listSlot (config.serialization.map nameEntry))]

theorem fileOf_eq (isEmpty : Bool) (name : String) (value : Json) :
    fileOf isEmpty name value = ofSlots [(name, if isEmpty then none else some value)] := by
  cases isEmpty <;> rfl

theorem fileOf_array {β : Type} (items : List β) (name : String) (encode : β → Json) :
    fileOf items.isEmpty name (.array (items.map encode)) =
      ofSlots [(name, listSlot (items.map encode))] := by
  rw [fileOf_eq, listSlot, List.isEmpty_map]

theorem descriptorValues_eq (config : NativeConfig) :
    config.descriptorValues = ofSlots config.fileSlots := by
  rw [descriptorValues, typeEntries, typeEntries, proxyEntries, fileOf_array, fileOf_array,
    fileOf_array, fileOf_array, fileOf_eq]
  simp only [← ofSlots_append]
  rfl

theorem hasNumerals_methodEntry (m : MethodHint) : (methodEntry m).HasNumerals := by
  simp [methodEntry, hasNumerals_object_iff, HasNumerals.string, hasNumerals_strings]

theorem hasNumerals_fieldEntry (name : String) (allowWrite : Bool) :
    (fieldEntry name allowWrite).HasNumerals := by
  cases allowWrite <;>
    simp [fieldEntry, flagMember, hasNumerals_object_iff, HasNumerals.string, HasNumerals.bool]

theorem hasNumerals_nameEntry (name : String) : (nameEntry name).HasNumerals := by
  simp [nameEntry, hasNumerals_object_iff, HasNumerals.string]

theorem hasNumerals_proxyEntry (interfaces : List String) :
    (proxyEntry interfaces).HasNumerals := by
  simp [proxyEntry, hasNumerals_object_iff, hasNumerals_strings]

theorem hasNumerals_typeEntry (type : String) (t : TypeAccess) :
    (typeEntry type t).HasNumerals := by
  rw [typeEntry_eq]
  refine hasNumerals_ofSlots fun slot listed value present => ?_
  simp only [typeSlots, List.cons_append, List.mem_cons, List.mem_append, List.mem_map,
    List.not_mem_nil, or_false] at listed
  obtain rfl | ⟨flag, -, rfl⟩ | rfl | rfl := listed
  · cases present
    exact .string type
  · exact hasNumerals_of_mem_flagSlot present
  · exact hasNumerals_of_mem_listSlot hasNumerals_methodEntry present
  · have fields (f : String × Bool) := hasNumerals_fieldEntry f.1 f.2
    exact hasNumerals_of_mem_listSlot fields present

theorem hasNumerals_of_mem_typeSlot {types : List (String × TypeAccess)} {value : Json}
    (h : value ∈ typeSlot types) : value.HasNumerals :=
  hasNumerals_of_mem_listSlot (fun t : String × TypeAccess => hasNumerals_typeEntry t.1 t.2) h

theorem hasNumerals_resourceRecord (patterns bundles : List String) :
    (resourceRecord patterns bundles).HasNumerals := by
  rw [resourceRecord, listMember_eq]
  refine hasNumerals_object_iff.2 (List.forall_mem_cons.2 ⟨?_, ?_⟩)
  · simp [hasNumerals_object_iff, hasNumerals_array_iff, HasNumerals.string]
  · refine hasNumerals_object_iff.1 (hasNumerals_ofSlots fun slot listed value present => ?_)
    obtain rfl := List.mem_singleton.1 listed
    exact hasNumerals_of_mem_listSlot hasNumerals_nameEntry present

theorem hasNumerals_of_mem_fileSlots {config : NativeConfig} {slot : String × Option Json}
    (listed : slot ∈ config.fileSlots) {value : Json} (present : value ∈ slot.2) :
    value.HasNumerals := by
  simp only [fileSlots, List.mem_cons, List.not_mem_nil, or_false] at listed
  obtain rfl | rfl | rfl | rfl | rfl := listed
  · exact hasNumerals_of_mem_typeSlot present
  · exact hasNumerals_of_mem_typeSlot present
  · exact hasNumerals_of_mem_listSlot hasNumerals_proxyEntry present
  · obtain ⟨-, same⟩ := Option.ite_none_left_eq_some.1 present
    cases same
    exact hasNumerals_resourceRecord _ _
  · exact hasNumerals_of_mem_listSlot hasNumerals_nameEntry present

/-- Each file is a JSON text. Whoever reads the files need not know how they were made. -/
theorem isSome_read?_of_mem_descriptors {config : NativeConfig} {file : String × String}
    (member : file ∈ config.descriptors) : (Json.read? file.2).isSome = true := by
  obtain ⟨⟨name, value⟩, held, rfl⟩ := List.mem_map.1 member
  rw [descriptorValues_eq] at held
  have sound : value.HasNumerals := hasNumerals_of_mem_fileSlots (mem_ofSlots_iff.1 held) rfl
  rw [read?_pretty sound]
  rfl

theorem nodup_fileSlots (config : NativeConfig) : (config.fileSlots.map Prod.fst).Nodup := by
  simp [fileSlots]

/-- Each file is read back, whether it is written or not. It is stated once for all five files. -/
theorem content?_descriptors {α : Type} {config : NativeConfig} {name : String}
    {value : Option Json} (listed : (name, value) ∈ config.fileSlots)
    (decode : Json → Option α) (absent : α) :
    Description.content? config.descriptors name decode absent =
      value.elim (some absent) decode := by
  have found : config.descriptors.lookup name = value.map (·.pretty ++ "\n") := by
    rw [descriptors, Lists.lookup_map fun value : Json => value.pretty ++ "\n",
      descriptorValues_eq, lookup_ofSlots (nodup_fileSlots config) listed]
  rw [Description.content?, found]
  cases value with
  | none => rfl
  | some value =>
    change (Json.read? (value.pretty ++ "\n")).bind decode = decode value
    rw [read?_pretty (hasNumerals_of_mem_fileSlots listed rfl), Option.bind_some]

/-- The files are read back. No part of the configuration is lost in them. -/
theorem ofFiles?_descriptors (config : NativeConfig) :
    Description.ofFiles? config.descriptors = some config.description := by
  have types (name : String) (types : List (String × TypeAccess))
      (listed : (name, typeSlot types) ∈ config.fileSlots) :
      Description.content? config.descriptors name (asList? DescribedType.ofEntry?) [] =
        some (types.map fun (type, t) => t.description type) := by
    rw [content?_descriptors listed, elim_typeSlot]
  have reflection := types "reflect-config.json" config.reflection (by simp [fileSlots])
  have jni := types "jni-config.json" config.jni (by simp [fileSlots])
  have proxies : Description.content? config.descriptors "proxy-config.json"
      (asList? (Description.ofMember? "interfaces" asStrings?)) [] = some config.proxies := by
    have listed : ("proxy-config.json", listSlot (config.proxies.map proxyEntry)) ∈
        config.fileSlots := by simp [fileSlots]
    rw [content?_descriptors listed, elim_listSlot ofMember?_proxyEntry, List.map_id']
  have resources : Description.content? config.descriptors "resource-config.json"
      Description.resources? ([], []) = some (config.patterns, config.bundles) := by
    have listed : ("resource-config.json", resourceSlot config.patterns config.bundles) ∈
        config.fileSlots := by simp [fileSlots]
    rw [content?_descriptors listed, elim_resourceSlot]
  have serialization : Description.content? config.descriptors "serialization-config.json"
      (asList? (Description.ofMember? "name" asString?)) [] = some config.serialization := by
    have listed : ("serialization-config.json", listSlot (config.serialization.map nameEntry)) ∈
        config.fileSlots := by simp [fileSlots]
    rw [content?_descriptors listed, elim_listSlot ofMember?_nameEntry, List.map_id']
  simp only [Description.ofFiles?, reflection, jni, proxies, resources, serialization,
    Option.bind_eq_bind, Option.bind_some]
  rfl

/-- The files that are written are those in which there is something to be told. Their order never
depends on what is told. -/
theorem names_descriptors (config : NativeConfig) :
    config.descriptors.map Prod.fst = (config.categories.filter (·.2)).map Prod.fst := by
  have categories : config.categories =
      config.fileSlots.map fun slot => (slot.1, slot.2.isSome) := by
    simp only [categories, fileSlots, typeSlot, isSome_listSlot, isSome_resourceSlot,
      List.isEmpty_map, List.map_cons, List.map_nil]
  have names : config.descriptors.map Prod.fst = config.descriptorValues.map Prod.fst := by
    simp [descriptors]
  rw [names, descriptorValues_eq, keys_ofSlots, categories, List.filter_map, List.map_map]
  rfl

theorem ascends_names {types : List (String × TypeAccess)} (h : Ascending.KeysAscend types) :
    Ascending.Ascends ((types.map fun (type, t) => t.description type).map (·.name)) := by
  have names : (types.map fun (type, t) => t.description type).map (·.name) =
      types.map Prod.fst := by
    rw [List.map_map]
    rfl
  rw [names]
  exact List.pairwise_map.2 h

/-- The files of the categories in which there is something to be told are written, each once and in
a fixed order, and what they tell is all of the configuration, with the types in ascending order of
their names. -/
theorem descriptors_tell (config : NativeConfig) :
    config.descriptors.map Prod.fst = (config.categories.filter (·.2)).map Prod.fst ∧
      (∀ file ∈ config.descriptors, (Json.read? file.2).isSome = true) ∧
      Description.ofFiles? config.descriptors = some config.description ∧
      Ascending.Ascends (config.description.reflection.map (·.name)) ∧
      Ascending.Ascends (config.description.jni.map (·.name)) :=
  ⟨names_descriptors config, fun _ => isSome_read?_of_mem_descriptors, ofFiles?_descriptors config,
    ascends_names config.reflection_ascends, ascends_names config.jni_ascends⟩

end NativeConfig

end StaticWiring
