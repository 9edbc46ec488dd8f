import StaticWiring.NativeConfig.Basic
import StaticWiring.Proofs.Ascending

/-!
# What a configuration of the native image says

A configuration is a set of facts, such as a bit of the access to a type, a method that can be
called, or a pattern for resources, and a request is one as well. A request unites its facts with
those of the configuration. The facts are all there is to a configuration, since its sets and maps
ascend: two configurations with the same facts are equal.

## Main definitions

* `TypeFact`, `NativeConfig.Fact` — what can be said of a type, and by a configuration.
* `NativeConfig.Says`, `NativeConfig.Request.Says` — the facts of a configuration and of a request.
* `NativeConfig.Merges` — a configuration is another one merged with requests.

## Main results

* `NativeConfig.says_add`, `NativeConfig.says_addAll` — the facts after requests.
* `NativeConfig.eq_of_says_iff` — the facts determine the configuration.
* `NativeConfig.merges_iff` — there is exactly one merged configuration.
* `NativeConfig.addAll_of_isReflective` — requests for reflection leave everything else as it is.
-/

namespace StaticWiring

/-! ### Bits of an access -/

namespace Access

/-- The access has the bit at a position. Positions beyond the known flags are never set by a
request. -/
def HasBit (a : Access) (bit : Nat) : Prop :=
  a.bits.toNat.testBit bit = true

theorem hasBit_union {a b : Access} {bit : Nat} :
    (a ||| b).HasBit bit ↔ a.HasBit bit ∨ b.HasBit bit := by
  show (a.bits ||| b.bits).toNat.testBit bit = true ↔ _
  rw [UInt32.toNat_or, Nat.testBit_or, Bool.or_eq_true]
  rfl

theorem not_hasBit_none {bit : Nat} : ¬ none.HasBit bit := by
  simp [HasBit, none]

theorem eq_of_hasBit_iff {a b : Access} (same : ∀ bit, a.HasBit bit ↔ b.HasBit bit) : a = b := by
  have bits : a.bits = b.bits :=
    UInt32.toNat_inj.1 (Nat.eq_of_testBit_eq fun bit => Bool.eq_iff_iff.2 (same bit))
  cases a
  congr

end Access

/-! ### Methods and fields -/

/-- What can be said of the access to a type. Facts are the smallest pieces of what can be asked
for. -/
inductive TypeFact where
  /-- There is an entry for the type. -/
  | known
  /-- The access has a bit. -/
  | granted (bit : Nat)
  /-- A method can be called. -/
  | method (method : MethodHint)
  /-- A field can be accessed. -/
  | field (name : String)
  /-- A field can be written. -/
  | written (name : String)

/-- The fact follows from a request for an access with methods and fields. Every request asks for
the entry at least. -/
def TypeFact.IsAsked (access : Access) (methods : List MethodHint) (fields : List FieldHint) :
    TypeFact → Prop
  | known => True
  | granted bit => access.HasBit bit
  | method m => m ∈ methods
  | field name => ∃ f ∈ fields, f.name = name
  | written name => ∃ f ∈ fields, f.name = name ∧ f.allowWrite = true

namespace TypeAccess

variable {t t' : TypeAccess} {fact : TypeFact}

/-- The facts of the access to a type. That a field can be written implies that it can be accessed.
-/
def Says (t : TypeAccess) : TypeFact → Prop
  | .known => True
  | .granted bit => t.access.HasBit bit
  | .method m => m ∈ t.methods
  | .field name => (t.fields.lookup name).isSome = true
  | .written name => t.fields.lookup name = some true

/-- Without an access, methods and fields, all that can be said is that there is an entry. It is the
entry from which each type starts. -/
theorem says_empty : ({} : TypeAccess).Says fact ↔ fact = .known := by
  cases fact <;> simp [Says, Access.not_hasBit_none]

/-! ### Requests for one type -/

theorem says_grant {access : Access} :
    (t.grant access).Says fact ↔ t.Says fact ∨ fact.IsAsked access [] [] := by
  cases fact <;> simp [Says, grant, TypeFact.IsAsked, Access.hasBit_union]

theorem says_addMethod {m : MethodHint} :
    (t.addMethod m).Says fact ↔ t.Says fact ∨ fact.IsAsked .none [m] [] := by
  cases fact <;>
    simp [Says, addMethod, TypeFact.IsAsked, Access.not_hasBit_none, Ascending.mem_insert_iff,
      or_comm]

theorem says_addField {f : FieldHint} :
    (t.addField f).Says fact ↔ t.Says fact ∨ fact.IsAsked .none [] [f] := by
  have found (name : String) := Ascending.lookup_upsert t.fields_ascend f.name name
    fun old => old.getD false || f.allowWrite
  cases fact with
  | known | granted | method => simp [Says, addField, TypeFact.IsAsked, Access.not_hasBit_none]
  | field name =>
    by_cases same : name = f.name
    · simp [Says, addField, TypeFact.IsAsked, found, same]
    · simp [Says, addField, TypeFact.IsAsked, found, same, Ne.symm same]
  | written name =>
    by_cases same : name = f.name
    · cases old : t.fields.lookup f.name <;>
        simp [Says, addField, TypeFact.IsAsked, found, same, old]
    · simp [Says, addField, TypeFact.IsAsked, found, same, Ne.symm same]

/-- The access with everything that a request for the type asks for. The parts are added one after
the other. -/
def demand (access : Access) (methods : List MethodHint) (fields : List FieldHint)
    (t : TypeAccess) : TypeAccess :=
  fields.foldl addField (methods.foldl addMethod (t.grant access))

theorem says_foldl_addMethod {methods : List MethodHint} :
    (methods.foldl addMethod t).Says fact ↔ t.Says fact ∨ fact.IsAsked .none methods [] := by
  induction methods generalizing t with
  | nil => cases fact <;> simp [Says, TypeFact.IsAsked, Access.not_hasBit_none]
  | cons m methods ih =>
    have split : fact.IsAsked .none (m :: methods) [] ↔
        fact.IsAsked .none [m] [] ∨ fact.IsAsked .none methods [] := by
      cases fact <;> simp [TypeFact.IsAsked]
    rw [List.foldl_cons, ih, says_addMethod, split, or_assoc]

theorem says_foldl_addField {fields : List FieldHint} :
    (fields.foldl addField t).Says fact ↔ t.Says fact ∨ fact.IsAsked .none [] fields := by
  induction fields generalizing t with
  | nil => cases fact <;> simp [Says, TypeFact.IsAsked, Access.not_hasBit_none]
  | cons f fields ih =>
    have split : fact.IsAsked .none [] (f :: fields) ↔
        fact.IsAsked .none [] [f] ∨ fact.IsAsked .none [] fields := by
      cases fact <;> simp [TypeFact.IsAsked]
    rw [List.foldl_cons, ih, says_addField, split, or_assoc]

/-- A request for a type unites what it asks for with what is said already. The order of the parts
is therefore of no account. -/
theorem says_demand (access : Access) (methods : List MethodHint) (fields : List FieldHint) :
    (t.demand access methods fields).Says fact ↔
      t.Says fact ∨ fact.IsAsked access methods fields := by
  have split : fact.IsAsked access methods fields ↔ fact.IsAsked access [] [] ∨
      fact.IsAsked .none methods [] ∨ fact.IsAsked .none [] fields := by
    cases fact <;> simp [TypeFact.IsAsked, Access.not_hasBit_none]
  rw [demand, says_foldl_addField, says_foldl_addMethod, says_grant, split, or_assoc, or_assoc]

/-- The facts determine the access. Accesses may be compared by their facts, as they keep their
parts in order. -/
theorem eq_of_says_iff (same : ∀ fact, t.Says fact ↔ t'.Says fact) : t = t' := by
  have access : t.access = t'.access := Access.eq_of_hasBit_iff fun bit => same (.granted bit)
  have methods : t.methods = t'.methods :=
    Ascending.eq_of_mem_iff t.methods_ascend t'.methods_ascend fun m => same (.method m)
  have fields : t.fields = t'.fields := by
    refine Ascending.eq_of_lookup_eq t.fields_ascend t'.fields_ascend fun name => ?_
    have present : (t.fields.lookup name).isSome = (t'.fields.lookup name).isSome :=
      Bool.eq_iff_iff.2 (same (.field name))
    have written : t.fields.lookup name = some true ↔ t'.fields.lookup name = some true :=
      same (.written name)
    generalize t.fields.lookup name = old at present written
    generalize t'.fields.lookup name = old' at present written
    rcases old with _ | _ | _ <;> rcases old' with _ | _ | _ <;> simp at present written ⊢
  exact TypeAccess.ext access methods fields

end TypeAccess

/-! ### Facts of a configuration -/

namespace NativeConfig

/-- What a configuration can say. The paths of covered resources are none of them, since these are
told by the patterns. -/
inductive Fact where
  /-- A fact about a type that is accessed by reflection. -/
  | reflection (type : String) (fact : TypeFact)
  /-- A fact about a type that is accessed from native code. -/
  | jni (type : String) (fact : TypeFact)
  /-- There is a proxy with interfaces. -/
  | proxy (interfaces : List String)
  /-- There is a pattern for resources. -/
  | pattern (pattern : String)
  /-- There is a resource bundle. -/
  | bundle (name : String)
  /-- A type is serialized. -/
  | serialization (type : String)

/-- A map of types has a type about which a fact can be said. Types without an entry have no facts.
-/
def TypeSays (types : List (String × TypeAccess)) (type : String) (fact : TypeFact) : Prop :=
  ∃ t, types.lookup type = some t ∧ t.Says fact

/-- The facts of a configuration. Proxies, patterns, bundles and serialized types are facts by
themselves. -/
def Says (config : NativeConfig) : Fact → Prop
  | .reflection type fact => TypeSays config.reflection type fact
  | .jni type fact => TypeSays config.jni type fact
  | .proxy interfaces => interfaces ∈ config.proxies
  | .pattern pattern => pattern ∈ config.patterns
  | .bundle name => name ∈ config.bundles
  | .serialization type => type ∈ config.serialization

/-- The facts of a request. A method or a field of a type asks for access to the type as well. A
class file is asked for by a pattern for its path. -/
def Request.Says : Request → Fact → Prop
  | .reflection type access, .reflection asked fact =>
    asked = type ∧ fact.IsAsked access [] []
  | .reflection type access, .pattern asked =>
    access.contains .classFile = true ∧ asked = literalPattern (classFilePath type)
  | .method type m, .reflection asked fact =>
    asked = type ∧ fact.IsAsked .loadType [m] []
  | .field type f, .reflection asked fact =>
    asked = type ∧ fact.IsAsked .loadType [] [f]
  | .jni type access methods fields, .jni asked fact =>
    asked = type ∧ fact.IsAsked access methods fields
  | .proxy interfaces, .proxy asked => asked = interfaces ∧ interfaces ≠ []
  | .pattern requested, .pattern asked => asked = requested
  | .bundle name, .bundle asked => asked = name
  | .serialization type, .serialization asked => asked = type
  | _, _ => False

theorem not_says_empty {fact : Fact} : ¬ ({} : NativeConfig).Says fact := by
  cases fact <;> simp [Says, TypeSays]

variable {config config' : NativeConfig} {types types' : List (String × TypeAccess)}

/-! ### One request -/

section Types

variable {type : String} {access : Access} {methods : List MethodHint} {fields : List FieldHint}

/-- The map of types with everything that a request for one type asks for. The entry is created
where there is none. -/
def demand (access : Access) (methods : List MethodHint) (fields : List FieldHint) (type : String)
    (types : List (String × TypeAccess)) : List (String × TypeAccess) :=
  Ascending.upsert type (fun old => (old.getD {}).demand access methods fields) types

theorem says_getD {fact : TypeFact} :
    ((types.lookup type).getD {}).Says fact ↔ TypeSays types type fact ∨ fact = .known := by
  cases found : types.lookup type with
  | none => simp [TypeSays, found, TypeAccess.says_empty]
  | some t =>
    have known : fact = .known → t.Says fact := by
      rintro rfl
      trivial
    simpa [TypeSays, found] using known

/-- A request for one type says nothing of the others, and unites what it asks for with what is
said already. -/
theorem typeSays_demand (h : Ascending.KeysAscend types) {other : String} {fact : TypeFact} :
    TypeSays (demand access methods fields type types) other fact ↔
      TypeSays types other fact ∨ other = type ∧ fact.IsAsked access methods fields := by
  by_cases same : other = type
  · subst same
    have known : fact = .known → fact.IsAsked access methods fields := by
      rintro rfl
      trivial
    have united : (((types.lookup other).getD {}).demand access methods fields).Says fact ↔ _ :=
      TypeAccess.says_demand access methods fields
    rw [says_getD, or_assoc, or_iff_right_of_imp known] at united
    simpa [TypeSays, demand, Ascending.lookup_upsert h] using united
  · simp [TypeSays, demand, Ascending.lookup_upsert h, same]

theorem lookup_of_typeSays_iff
    (same : ∀ type fact, TypeSays types type fact ↔ TypeSays types' type fact) {t : TypeAccess}
    (found : types.lookup type = some t) : types'.lookup type = some t := by
  obtain ⟨t', found', -⟩ := (same type .known).1 ⟨t, found, trivial⟩
  have facts (fact : TypeFact) : t.Says fact ↔ t'.Says fact := by
    simpa [TypeSays, found, found'] using same type fact
  rw [found', TypeAccess.eq_of_says_iff facts]

/-- The facts determine a map of types. No map has entries that cannot be told by facts. -/
theorem eq_of_typeSays_iff (h : Ascending.KeysAscend types) (h' : Ascending.KeysAscend types')
    (same : ∀ type fact, TypeSays types type fact ↔ TypeSays types' type fact) :
    types = types' := by
  refine Ascending.eq_of_lookup_eq h h' fun type => Option.ext fun t => ?_
  exact ⟨lookup_of_typeSays_iff same,
    lookup_of_typeSays_iff fun type fact => (same type fact).symm⟩

end Types

theorem says_addPattern {pattern : String} {fact : Fact} :
    (config.addPattern pattern).Says fact ↔ config.Says fact ∨ fact = .pattern pattern := by
  cases fact <;> simp [Says, addPattern, Ascending.mem_insert_iff, or_comm]

theorem says_updateReflection (type : String) (access : Access) (methods : List MethodHint)
    (fields : List FieldHint) {fact : Fact} :
    (config.updateReflection type (·.demand access methods fields)).Says fact ↔ config.Says fact ∨
      ∃ told, fact = .reflection type told ∧ told.IsAsked access methods fields := by
  cases fact with
  | reflection asked told =>
    have united : TypeSays (config.updateReflection type
        (·.demand access methods fields)).reflection asked told ↔ _ :=
      typeSays_demand config.reflection_ascends
    simpa [Says, and_assoc] using united
  | jni | proxy | pattern | bundle | serialization => simp [Says, updateReflection]

/-- A request unites its facts with those of the configuration. This is the step from which
everything about requests is derived. -/
theorem says_add {r : Request} {fact : Fact} :
    (config.add r).Says fact ↔ config.Says fact ∨ r.Says fact := by
  cases r with
  | reflection type access =>
    have granted : (config.updateReflection type (·.grant access)).Says fact ↔ _ :=
      says_updateReflection type access [] []
    -- With this bit the class file is requested as a resource too.
    simp only [add]
    split
    · next classFile =>
      rw [says_addPattern, granted, or_assoc]
      cases fact <;> simp [Request.Says, classFile]
    · next classFile =>
      rw [granted]
      cases fact <;> simp [Request.Says, classFile]
  | method type m =>
    have united : (config.add (.method type m)).Says fact ↔ _ :=
      says_updateReflection type .loadType [m] []
    rw [united]
    cases fact <;> simp [Request.Says]
  | field type f =>
    have united : (config.add (.field type f)).Says fact ↔ _ :=
      says_updateReflection type .loadType [] [f]
    rw [united]
    cases fact <;> simp [Request.Says]
  | jni type access methods fields =>
    cases fact with
    | jni asked told => exact typeSays_demand config.jni_ascends
    | reflection | proxy | pattern | bundle | serialization => simp [Says, Request.Says, add]
  | proxy interfaces =>
    by_cases none : interfaces = []
    · cases fact <;> simp [Says, Request.Says, add, none]
    · cases fact <;> simp [Says, Request.Says, add, none, Ascending.mem_insert_iff, or_comm]
  | pattern pattern =>
    rw [add, says_addPattern]
    cases fact <;> simp [Request.Says]
  | bundle name =>
    cases fact <;> simp [Says, Request.Says, add, Ascending.mem_insert_iff, or_comm]
  | serialization type =>
    cases fact <;> simp [Says, Request.Says, add, Ascending.mem_insert_iff, or_comm]

/-! ### Further requests -/

/-- Requests unite their facts with those of the configuration. The induction is over the requests.
-/
theorem says_addAll {requests : List Request} {fact : Fact} :
    (config.addAll requests).Says fact ↔
      config.Says fact ∨ ∃ r ∈ requests, r.Says fact := by
  unfold addAll
  induction requests generalizing config with
  | nil => simp
  | cons r rest ih =>
    rw [List.foldl_cons, ih, says_add, or_assoc]
    simp

theorem addAll_append (requests requests' : List Request) :
    config.addAll (requests ++ requests') = (config.addAll requests).addAll requests' :=
  List.foldl_append

/-- The facts determine the configuration. Two runs of requests may thus be compared by what they
say. -/
theorem eq_of_says_iff (same : ∀ fact, config.Says fact ↔ config'.Says fact) :
    config = config' := by
  have reflection := eq_of_typeSays_iff config.reflection_ascends config'.reflection_ascends
    fun type fact => same (.reflection type fact)
  have jni := eq_of_typeSays_iff config.jni_ascends config'.jni_ascends
    fun type fact => same (.jni type fact)
  have proxies := Ascending.eq_of_mem_iff config.proxies_ascend config'.proxies_ascend
    fun x => same (.proxy x)
  have patterns := Ascending.eq_of_mem_iff config.patterns_ascend config'.patterns_ascend
    fun x => same (.pattern x)
  have bundles := Ascending.eq_of_mem_iff config.bundles_ascend config'.bundles_ascend
    fun x => same (.bundle x)
  have serialization := Ascending.eq_of_mem_iff config.serialization_ascends
    config'.serialization_ascends fun x => same (.serialization x)
  exact NativeConfig.ext reflection jni proxies patterns bundles serialization

/-! ### Merged requests -/

/-- A configuration merged with requests: it says what was said before and what is asked for, and
nothing else. -/
def Merges (config : NativeConfig) (asked : Request → Prop) (merged : NativeConfig) : Prop :=
  ∀ fact, merged.Says fact ↔ config.Says fact ∨ ∃ r, asked r ∧ r.Says fact

/-- The request is for access by reflection only. The class file would ask for a pattern as well. -/
def Request.IsReflective : Request → Prop
  | .reflection _ access => access.contains .classFile = false
  | .method _ _ => True
  | .field _ _ => True
  | _ => False

/-- There is exactly one configuration merged with requests. It is the one that making the requests
leads to, in any order. -/
theorem merges_iff {asked : Request → Prop} {requests : List Request} {merged : NativeConfig}
    (all : ∀ r, r ∈ requests ↔ asked r) :
    config.Merges asked merged ↔ merged = config.addAll requests := by
  have added : config.Merges asked (config.addAll requests) := by
    intro fact
    simp only [says_addAll, all]
  constructor
  · intro merges
    exact eq_of_says_iff fun fact => (merges fact).trans (added fact).symm
  · rintro rfl
    exact added

theorem add_of_isReflective (config : NativeConfig) {r : Request} (h : r.IsReflective) :
    config.add r = { config with
      reflection := (config.add r).reflection
      reflection_ascends := (config.add r).reflection_ascends } := by
  cases r with
  | reflection type access =>
    have plain : access.contains .classFile = false := h
    simp [add, plain, updateReflection]
  | method | field => rfl
  | jni | proxy | pattern | bundle | serialization => exact h.elim

/-- Requests for reflection leave everything else as it is. Code that asks for nothing else may be
judged by the reflection alone. -/
theorem addAll_of_isReflective (config : NativeConfig) {requests : List Request}
    (h : ∀ r ∈ requests, r.IsReflective) :
    config.addAll requests = { config with
      reflection := (config.addAll requests).reflection
      reflection_ascends := (config.addAll requests).reflection_ascends } := by
  unfold addAll
  induction requests generalizing config with
  | nil => rfl
  | cons r rest ih =>
    obtain ⟨first, others⟩ := List.forall_mem_cons.1 h
    rw [List.foldl_cons, ih _ others, add_of_isReflective config first]

end NativeConfig

end StaticWiring
