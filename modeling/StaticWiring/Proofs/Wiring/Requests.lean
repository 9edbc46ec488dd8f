import StaticWiring.Proofs.NativeConfig.Facts
import StaticWiring.Proofs.Wiring.Plain

/-!
# What a wiring asks of the native image

A definition that is wired asks for access by reflection to those members that the generated code
cannot use, and to its type if the generated code cannot name it, and for nothing else. The members
that are used are the chosen ones: constructors and overloads that were tried and given up ask for
nothing.

## Main definitions

* `Wiring.Asks` — the requests of a wiring.
* `Assembly.Accesses` — the access of a wiring to types and members.

## Main results

* `Wiring.mem_requests_iff` — the requests are the ones that are asked.
* `Assembly.accesses_of_wire` — a member is used by reflection if the generated code cannot use it.
* `Assembly.wire_merges` — the configuration after a definition is wired.
-/

namespace StaticWiring

/-! ### Requests -/

/-- The requests of a wiring. They can be read off the wiring, and do not depend on how it came
about. -/
inductive Wiring.Asks (w : Wiring) : NativeConfig.Request → Prop
  /-- The definition's type, if the generated code cannot name it, is found by its name. -/
  | type (hidden : w.typeAccessible = false) :
    w.Asks (.reflection w.definition.type.name .loadType)
  /-- The constructor is called by reflection. -/
  | construction {parameterTypes : List TypeRef} {arguments : List Value}
      (reflective : w.instantiation = .construction parameterTypes arguments true) :
    w.Asks (.method w.definition.type.name ⟨"<init>", parameterTypes.map (·.name)⟩)
  /-- The factory method is called by reflection. -/
  | factoryMethod {owner method : String} {bean : Option String} {parameterTypes : List TypeRef}
      {arguments : List Value}
      (reflective : w.instantiation =
        .factoryMethod owner bean method parameterTypes arguments true) :
    w.Asks (.method owner ⟨method, parameterTypes.map (·.name)⟩)
  /-- A field is written by reflection. -/
  | field {owner name : String} {type : TypeRef} {value : Value}
      (reflective : .field owner name type value true ∈ w.injections) :
    w.Asks (.field owner ⟨name, true⟩)
  /-- A setter is called by reflection. -/
  | setter {owner name : String} {parameterTypes : List TypeRef} {arguments : List Value}
      (reflective : .method owner name parameterTypes arguments true ∈ w.injections) :
    w.Asks (.method owner ⟨name, parameterTypes.map (·.name)⟩)

theorem Instantiation.asks_of_mem_requests {w : Wiring} {r : NativeConfig.Request}
    (h : r ∈ w.instantiation.requests w.definition.type.name) : w.Asks r := by
  cases made : w.instantiation with
  | construction parameterTypes arguments reflective =>
    cases reflective with
    | false => simp [made, requests] at h
    | true =>
      obtain rfl : r = .invocation _ "<init>" parameterTypes := by simpa [made, requests] using h
      exact .construction made
  | factoryMethod owner bean method parameterTypes arguments reflective =>
    cases reflective with
    | false => simp [made, requests] at h
    | true =>
      obtain rfl : r = .invocation owner method parameterTypes := by
        simpa [made, requests] using h
      exact .factoryMethod made
  | supplier expression => simp [made, requests] at h

theorem Injection.asks_of_mem_requests {w : Wiring} {injection : Injection}
    (member : injection ∈ w.injections) {r : NativeConfig.Request} (h : r ∈ injection.requests) :
    w.Asks r := by
  cases injection with
  | field owner name type value reflective =>
    cases reflective with
    | false => simp [requests] at h
    | true =>
      obtain rfl : r = .field owner ⟨name, true⟩ := by simpa [requests] using h
      exact .field member
  | method owner name parameterTypes arguments reflective =>
    cases reflective with
    | false => simp [requests] at h
    | true =>
      obtain rfl : r = .invocation owner name parameterTypes := by simpa [requests] using h
      exact .setter member

theorem Wiring.mem_requests_iff {w : Wiring} {r : NativeConfig.Request} :
    r ∈ w.requests ↔ w.Asks r := by
  rw [requests, List.mem_append, List.mem_append]
  constructor
  · rintro ((own | made) | injected)
    · cases hidden : w.typeAccessible with
      | true => simp [hidden] at own
      | false =>
        obtain rfl : r = .reflection w.definition.type.name .loadType := by
          simpa [hidden] using own
        exact .type hidden
    · exact Instantiation.asks_of_mem_requests made
    · obtain ⟨injection, member, asked⟩ := List.mem_flatMap.1 injected
      exact Injection.asks_of_mem_requests member asked
  · rintro (hidden | made | made | injected | injected)
    · simp [hidden]
    · exact .inl (.inr (by simp [made, Instantiation.requests, NativeConfig.Request.invocation]))
    · exact .inl (.inr (by simp [made, Instantiation.requests, NativeConfig.Request.invocation]))
    · exact .inr (List.mem_flatMap.2 ⟨_, injected, by simp [Injection.requests]⟩)
    · refine .inr (List.mem_flatMap.2 ⟨_, injected, ?_⟩)
      simp [Injection.requests, NativeConfig.Request.invocation]

theorem Wiring.isReflective_of_asks {w : Wiring} {r : NativeConfig.Request} (h : w.Asks r) :
    r.IsReflective := by
  cases h with
  | type => exact show Access.loadType.contains .classFile = false from rfl
  | construction | factoryMethod | field | setter => trivial

namespace Assembly

variable {a : Assembly} {d : Definition}

/-! ### The access of a wiring -/

/-- The access of the wiring of a definition to types and members. These facts tell that nothing is
asked for which does not exist. -/
structure Accesses (a : Assembly) (d : Definition) (w : Wiring) : Prop where
  /-- It is the wiring of the definition. -/
  definition_eq : w.definition = d
  /-- It says whether the generated code can name the definition's type. -/
  typeAccessible_eq : w.typeAccessible = a.site.canName d.type.name
  /-- The instance is made by a member that the class has, and the arguments mention definitions
  of the catalog only. -/
  builds : a.Builds (fun _ v => a.Knows v) d w.instantiation
  /-- It is completed with members that its class and the super classes have, and the values mention
  definitions of the catalog only. -/
  injects : ∀ injection ∈ w.injections, ∃ t,
    a.classPath.get? d.type.name = some t ∧ a.Injects (fun _ v => a.Knows v) t injection

theorem accesses_of_wire {w : Wiring} (h : (a.wire d).outcome = .ok w) : a.Accesses d w := by
  obtain ⟨instantiation, injections, made, completed, rfl, -⟩ := exists_parts_of_wire h
  have builds := (calls_of_instantiate made).mono fun _ _ => Passes.knows
  refine ⟨rfl, rfl, builds, fun injection hi => ?_⟩
  obtain ⟨t, found, assigns⟩ := (injections_eq_ok completed).1 injection hi
  exact ⟨t, found, assigns.mono fun _ _ => Serves.knows⟩

end Assembly

/-! ### A class of a library -/

namespace Sample

/-- A class that only its own package can name, with a private constructor and a private field.
Neither can be used from another package. -/
def libraryClass : TypeDecl where
  name := "lib.Hidden"
  visibility := .packageAccess
  constructors := [{ visibility := .privateAccess }]
  fields := [{
    name := "context", inject := true
    type := .raw "org.springframework.context.ApplicationContext" }]

/-- The definition of this class. It is an ordinary one. -/
def libraryDefinition : Definition where
  name := "hidden"
  type := .raw "lib.Hidden"

/-- The generated code stands in another package. It can therefore use nothing of the class
directly. -/
def libraryAssembly : Assembly where
  classPath := { types := [libraryClass] }
  catalog := { definitions := [libraryDefinition] }
  environment := {}
  package := "app"

/-- The wiring of this class. The constructor and the field are used by reflection. -/
def libraryWiring : Wiring where
  definition := libraryDefinition
  typeAccessible := false
  instantiation := .construction [] [] true
  injections := [.field "lib.Hidden" "context"
    (.raw "org.springframework.context.ApplicationContext") (.container .context) true]

/-- A configuration in which the field can be read, beside a proxy. It is what requests for reading
and writing the field are merged with. -/
def proxyConfig : NativeConfig :=
  NativeConfig.addAll {} [.field "lib.Hidden" ⟨"context", false⟩, .proxy ["lib.Api"]]

theorem wire_libraryDefinition :
    (libraryAssembly.wire libraryDefinition).outcome = .ok libraryWiring := by
  have instantiation : libraryAssembly.instantiate libraryDefinition =
      .ok (.construction [] [] true) :=
    Assembly.construct_of_single (d := libraryDefinition) (t := libraryClass) rfl rfl
  have injections : (libraryAssembly.injections libraryDefinition).outcome =
      .ok libraryWiring.injections :=
    Assembly.injections_of_top (t := libraryClass) rfl rfl rfl rfl
  exact Assembly.wire_of_parts instantiation injections

end Sample

namespace Assembly

variable {a : Assembly} {d : Definition}

/-! ### The configuration -/

/-- When a definition is wired, the configuration is merged with the requests of its wiring and no
others, so that nothing but the access by reflection changes. -/
theorem wire_merges {config : NativeConfig} {w : Wiring} (h : (a.wire d).outcome = .ok w) :
    a.Accesses d w ∧
      (∀ merged, config.Merges w.Asks merged ↔ merged = config.addAll (a.wire d).requests) ∧
      config.addAll (a.wire d).requests = { config with
        reflection := (config.addAll (a.wire d).requests).reflection
        reflection_ascends := (config.addAll (a.wire d).requests).reflection_ascends } := by
  have requests : (a.wire d).requests = w.requests := (wire_eq_ok h).2
  have reflective : ∀ r ∈ w.requests, r.IsReflective := fun r hr =>
    Wiring.isReflective_of_asks (Wiring.mem_requests_iff.1 hr)
  rw [requests]
  refine ⟨accesses_of_wire h, fun merged => ?_, NativeConfig.addAll_of_isReflective _ reflective⟩
  exact NativeConfig.merges_iff fun _ => Wiring.mem_requests_iff

theorem wire_merges_libraryDefinition :
    (Sample.libraryAssembly.wire Sample.libraryDefinition).outcome = .ok Sample.libraryWiring ∧
      Sample.proxyConfig.Merges Sample.libraryWiring.Asks {
        reflection := [("lib.Hidden", {
          access := .loadType
          methods := [⟨"<init>", []⟩]
          fields := [("context", true)]
          methods_ascend := by decide
          fields_ascend := by decide })]
        proxies := [["lib.Api"]]
        reflection_ascends := by decide
        proxies_ascend := by decide } := by
  have wires := Sample.wire_libraryDefinition
  obtain ⟨-, merges, -⟩ := wire_merges wires
  refine ⟨wires, (merges _).2 ?_⟩
  rw [(wire_eq_ok wires).2]
  decide

end Assembly

end StaticWiring
