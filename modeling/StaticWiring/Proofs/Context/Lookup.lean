import StaticWiring.Proofs.Context.Plain
import StaticWiring.Proofs.NativeConfig.Loading
import StaticWiring.Proofs.Registration.Lookups

/-!
# Lookups of a context in the native image

The classes of a context look up the types that they cannot name. The type of a definition and the
types that declare its factory method and its injected members can always be found in the native
image, for the wiring asks for each of them that cannot be named. Nothing is asked for a parameter
type: if it cannot be named, it can only be found if it is asked for on behalf of something else.

## Main definitions

* `Wiring.parameterTypes` — the parameter types whose class objects a registration spells out.
* `Wiring.requestedTypes` — the types that a wiring asks the native image for.
* `Site.lookupsOf` — the names that a class looks up.

## Main results

* `Wiring.loads_requests` — what the requests of a wiring let be found.
* `Assembly.Wires.requested_of_hidden` — only a parameter type may not be asked for.
* `ContextPlan.lookups_load_iff` — when all lookups of a context find their types.
* `Sample.not_lookups_load_hiddenParameter` — they do not for a hidden parameter type.
-/

namespace StaticWiring

/-! ### The types of a wiring -/

/-- The parameter types whose class objects the code of an instantiation spells out. An instance
that is supplied needs none. -/
def Instantiation.parameterTypes : Instantiation → List String
  | construction parameterTypes _ _ => parameterTypes.map (·.name)
  | factoryMethod _ _ _ parameterTypes _ _ => parameterTypes.map (·.name)
  | supplier _ => []

/-- The parameter types whose class objects the code of an injection spells out. They are spelled
out to find the method by reflection, and not otherwise. -/
def Injection.parameterTypes : Injection → List String
  | field .. => []
  | method _ _ parameterTypes _ reflective =>
    if reflective then parameterTypes.map (·.name) else []

/-- The parameter types whose class objects the code of a registration spells out. It is these types
that nothing may be asked for. -/
def Wiring.parameterTypes (w : Wiring) : List String :=
  w.instantiation.parameterTypes ++ w.injections.flatMap Injection.parameterTypes

/-- The type that an instantiation asks the native image for. It is the type that declares the
constructor or method. -/
def Instantiation.requestedTypes (type : String) : Instantiation → List String
  | construction _ _ reflective => if reflective then [type] else []
  | factoryMethod declaringType _ _ _ _ reflective => if reflective then [declaringType] else []
  | supplier _ => []

/-- The type that an injection asks the native image for. It is the type that declares the member.
-/
def Injection.requestedTypes : Injection → List String
  | field declaringType _ _ _ reflective => if reflective then [declaringType] else []
  | method declaringType _ _ _ reflective => if reflective then [declaringType] else []

/-- The types that a wiring asks the native image for: its own one if it cannot be named, and the
ones whose members are used by reflection. -/
def Wiring.requestedTypes (w : Wiring) : List String :=
  (if w.typeAccessible then [] else [w.definition.type.name]) ++
    w.instantiation.requestedTypes w.definition.type.name ++
    w.injections.flatMap Injection.requestedTypes

theorem Instantiation.loads_requests {type name : String} (instantiation : Instantiation) :
    (∃ r ∈ instantiation.requests type, r.Loads name) ↔
      name ∈ instantiation.requestedTypes type := by
  cases instantiation with
  | construction parameterTypes arguments reflective =>
    cases reflective <;> simp [requests, requestedTypes, NativeConfig.Request.invocation,
      NativeConfig.Request.Loads]
  | factoryMethod declaringType factoryBean method parameterTypes arguments reflective =>
    cases reflective <;> simp [requests, requestedTypes, NativeConfig.Request.invocation,
      NativeConfig.Request.Loads]
  | supplier expression => simp [requests, requestedTypes]

theorem Injection.loads_requests {name : String} (injection : Injection) :
    (∃ r ∈ injection.requests, r.Loads name) ↔ name ∈ injection.requestedTypes := by
  cases injection with
  | field declaringType field type value reflective =>
    cases reflective <;> simp [requests, requestedTypes, NativeConfig.Request.Loads]
  | method declaringType method parameterTypes arguments reflective =>
    cases reflective <;> simp [requests, requestedTypes, NativeConfig.Request.invocation,
      NativeConfig.Request.Loads]

theorem Wiring.loads_requests {name : String} (w : Wiring) :
    (∃ r ∈ w.requests, r.Loads name) ↔ name ∈ w.requestedTypes := by
  have own : (∃ r ∈ (if w.typeAccessible then []
      else [NativeConfig.Request.reflection w.definition.type.name .loadType]), r.Loads name) ↔
        name ∈ if w.typeAccessible then [] else [w.definition.type.name] := by
    cases w.typeAccessible <;>
      simp [NativeConfig.Request.Loads, show Access.loadType.contains .loadType = true from rfl]
  have completes : (∃ r ∈ w.injections.flatMap Injection.requests, r.Loads name) ↔
      name ∈ w.injections.flatMap Injection.requestedTypes := by
    simp only [List.mem_flatMap, ← Injection.loads_requests]
    constructor
    · rintro ⟨r, ⟨injection, hi, hr⟩, loads⟩
      exact ⟨injection, hi, r, hr, loads⟩
    · rintro ⟨injection, hi, r, hr, loads⟩
      exact ⟨r, ⟨injection, hi, hr⟩, loads⟩
  rw [requests, requestedTypes, List.mem_append, List.mem_append, ← own, ← completes,
    ← Instantiation.loads_requests]
  simp only [List.mem_append, or_and_right, exists_or]

/-! ### Hidden types -/

/-- The code of an injection spells out the declaring type, which is asked for, and parameter
types. -/
theorem Injection.requested_of_literal {injection : Injection} {name : String}
    (literal : name ∈ injection.literalTypes) :
    name ∈ injection.requestedTypes ∨ name ∈ injection.parameterTypes := by
  cases injection with
  | field declaringType field type value reflective => exact .inl literal
  | method declaringType method parameterTypes arguments reflective =>
    cases reflective with
    | true =>
      rcases List.mem_cons.1 literal with rfl | literal
      · exact .inl (List.mem_singleton_self _)
      · exact .inr literal
    | false => exact absurd literal List.not_mem_nil

theorem Wiring.literal_of_parameter {w : Wiring} {name : String}
    (parameter : name ∈ w.parameterTypes) : name ∈ w.literalTypes := by
  rcases List.mem_append.1 parameter with parameter | parameter
  · refine List.mem_append_left _ (List.mem_cons_of_mem _ ?_)
    cases hw : w.instantiation with
    | construction parameterTypes arguments reflective => rwa [hw] at parameter
    | factoryMethod declaringType factoryBean method parameterTypes arguments reflective =>
      rw [hw] at parameter
      exact List.mem_cons_of_mem _ parameter
    | supplier expression => rwa [hw] at parameter
  · obtain ⟨injection, hi, parameter⟩ := List.mem_flatMap.1 parameter
    refine List.mem_append_right _ (List.mem_flatMap.2 ⟨injection, hi, ?_⟩)
    cases injection with
    | field declaringType field type value reflective => exact absurd parameter List.not_mem_nil
    | method declaringType method parameterTypes arguments reflective =>
      cases reflective with
      | true => exact List.mem_cons_of_mem _ parameter
      | false => exact absurd parameter List.not_mem_nil

namespace Assembly

variable {a : Assembly} {d : Definition} {w : Wiring} {name : String}

theorem Obtains.requested_of_hidden {type : String} {instantiation : Instantiation}
    (h : a.Obtains type instantiation) (literal : name ∈ instantiation.literalTypes)
    (hidden : a.site.canName name = false) :
    name ∈ instantiation.requestedTypes type ∨ name ∈ instantiation.parameterTypes := by
  cases instantiation with
  | construction parameterTypes arguments reflective => exact .inr literal
  | factoryMethod declaringType factoryBean method parameterTypes arguments reflective =>
    rcases List.mem_cons.1 literal with rfl | literal
    · cases reflective with
      | true => exact .inl (List.mem_singleton_self _)
      | false =>
        rw [h.canName_direct _ rfl] at hidden
        cases hidden
    · exact .inr literal
  | supplier expression => exact absurd literal List.not_mem_nil

/-- A type that is looked up is asked for, unless it is a parameter type. Types that can be named
are not looked up, and nothing has to be asked for them. -/
theorem Wires.requested_of_hidden (h : a.Wires d w) (literal : name ∈ w.literalTypes)
    (hidden : a.site.canName name = false) :
    name ∈ w.requestedTypes ∨ name ∈ w.parameterTypes := by
  rw [Wiring.requestedTypes, Wiring.parameterTypes, List.mem_append, List.mem_append,
    List.mem_append]
  rcases List.mem_append.1 literal with literal | literal
  · rcases List.mem_cons.1 literal with rfl | literal
    · rw [h.definition_eq] at hidden
      rw [h.typeAccessible_eq, h.definition_eq, hidden]
      exact .inl (.inl (.inl (List.mem_singleton_self _)))
    · rw [h.definition_eq]
      rcases h.obtains.requested_of_hidden literal hidden with requested | parameter
      · exact .inl (.inl (.inr requested))
      · exact .inr (.inl parameter)
  · obtain ⟨injection, hi, literal⟩ := List.mem_flatMap.1 literal
    rcases injection.requested_of_literal literal with requested | parameter
    · exact .inl (.inr (List.mem_flatMap.2 ⟨injection, hi, requested⟩))
    · exact .inr (.inr (List.mem_flatMap.2 ⟨injection, hi, parameter⟩))

end Assembly

/-! ### The lookups of a context -/

/-- The names of the classes that a generated class looks up. They are read off the code of its
registrations. -/
def Site.lookupsOf (site : Site) (c : GeneratedClass) : List String :=
  c.wirings.flatMap fun w => (site.registration w).lookups

namespace ContextPlan

variable {plan : ContextPlan} {build : Build} {options : Options} {forest : ClassForest}
  {context : GeneratedContext} {catalog : Catalog} {wired ordered : List Wiring}
  {type : String}

/-- What a context asks the native image for. The initializer itself is created by its name, and so
is asked for as well. -/
theorem loads_requests (plan : ContextPlan) (forest : ClassForest) (wired : List Wiring) :
    (∃ r ∈ plan.requests forest wired, r.Loads type) ↔
      type = forest.qualify plan.className ∨ ∃ w ∈ wired, type ∈ w.requestedTypes := by
  have creation : (∃ r ∈ ClassForest.creationRequests (forest.qualify plan.className),
      r.Loads type) ↔ type = forest.qualify plan.className := by
    simp [ClassForest.creationRequests, NativeConfig.Request.invocation, NativeConfig.Request.Loads,
      show Access.loadType.contains .loadType = true from rfl]
  simp only [requests, List.mem_append, or_and_right, exists_or, creation, List.mem_flatMap,
    ← Wiring.loads_requests]
  rw [or_comm]
  refine or_congr_right ⟨?_, ?_⟩
  · rintro ⟨r, ⟨w, hw, hr⟩, loads⟩
    exact ⟨w, hw, r, hr, loads⟩
  · rintro ⟨w, hw, r, hr, loads⟩
    exact ⟨r, ⟨w, hw, hr⟩, loads⟩

/-- What a context finds in the native image that is asked for nothing before. Nothing is lost by
the order of the wirings, which is that of the code and not of the catalog. -/
theorem Generates.loads_iff
    (h : plan.Generates build options forest {} catalog wired ordered context) (type : String) :
    context.config.Loads type ↔
      type = forest.qualify plan.className ∨
        ∃ c ∈ context.added forest, ∃ w ∈ c.wirings, type ∈ w.requestedTypes := by
  rw [h.config_eq, NativeConfig.loads_addAll_empty, loads_requests]
  refine or_congr_right ⟨?_, ?_⟩
  · rintro ⟨w, hw, requested⟩
    obtain ⟨c, hc, hw⟩ := (h.exists_mem_added_iff w).2 hw
    exact ⟨c, hc, w, hw, requested⟩
  · rintro ⟨c, hc, w, hw, requested⟩
    exact ⟨w, (h.exists_mem_added_iff w).1 ⟨c, hc, hw⟩, requested⟩

/-- The registration of a wiring looks up the types that it spells out and cannot name. A type may
be spelled out several times, and is looked up each time. -/
theorem Generates.mem_lookups_iff
    (h : plan.Generates build options forest {} catalog wired ordered context)
    {c : GeneratedClass} (hc : c ∈ context.added forest) {w : Wiring} (hw : w ∈ c.wirings)
    (name : String) :
    let site : Site := ⟨build.classPath, forest.package⟩
    name ∈ (site.registration w).lookups ↔ name ∈ w.literalTypes ∧ site.canName name = false :=
  Site.mem_lookups_registration (h.wires_of_mem_added hc hw).typeAccessible_eq

/-- All lookups of a context that is generated without earlier requests find their types in the
native image exactly if each parameter type whose class object is spelled out can be named, is the
initializer, or is asked for by a wiring on behalf of something else. -/
theorem lookups_load_iff (h : plan.generate build options forest {} = .ok context) :
    let site : Site := ⟨build.classPath, forest.package⟩
    (∀ c ∈ context.added forest, ∀ name ∈ site.lookupsOf c, context.config.Loads name) ↔
      ∀ c ∈ context.added forest, ∀ w ∈ c.wirings, ∀ type ∈ w.parameterTypes,
        site.canName type = true ∨ type = forest.qualify plan.className ∨
          ∃ c' ∈ context.added forest, ∃ v ∈ c'.wirings, type ∈ v.requestedTypes := by
  intro site
  obtain ⟨catalog, wired, ordered, generates⟩ := exists_generates h
  simp only [← generates.loads_iff]
  constructor
  · intro all c hc w hw type parameter
    by_cases named : site.canName type = true
    · exact .inl named
    · have sought : type ∈ (site.registration w).lookups := by
        refine (generates.mem_lookups_iff hc hw type).2 ⟨?_, eq_false_of_ne_true named⟩
        exact w.literal_of_parameter parameter
      exact .inr (all c hc type (List.mem_flatMap.2 ⟨w, hw, sought⟩))
  · intro all c hc name hname
    obtain ⟨w, hw, hname⟩ := List.mem_flatMap.1 hname
    obtain ⟨literal, hidden⟩ := (generates.mem_lookups_iff hc hw name).1 hname
    rcases (generates.wires_of_mem_added hc hw).requested_of_hidden literal hidden with
      requested | parameter
    · exact (generates.loads_iff name).2 (.inr ⟨c, hc, w, hw, requested⟩)
    · refine (all c hc w hw name parameter).resolve_left fun named => ?_
      rw [hidden] at named
      cases named

end ContextPlan

/-! ### A hidden class -/

namespace Sample

/-- An optional parameter for another instance of the class that declares it. It stays without a
value, as no such definition is found for it. -/
def vaultParameter : Parameter where
  name := "outer"
  type := .raw "lib.Vault"
  required := false

/-- A class that only its own package can name, with a constructor that has this parameter. Whoever
calls the constructor has to look up the class twice. -/
def vaultClass : TypeDecl where
  name := "lib.Vault"
  visibility := .packageAccess
  constructors := [{ parameters := [vaultParameter] }]

/-- A build that knows nothing but this class. There are no other types, no properties and no
profiles. -/
def vaultBuild : Build where
  classPath := { types := [vaultClass] }
  environment := {}

/-- The context that is started with this class, whose code stands in another package. The package
of the code is that of the other samples. -/
def vaultPlan : ContextPlan :=
  { mainPlan with roots := ["lib.Vault"] }

/-- The wiring of this class. The parameter is passed nothing, but its type is spelled out all the
same. -/
def vaultWiring : Wiring where
  definition := vaultClass.rootDefinition
  typeAccessible := false
  instantiation := .construction [.raw "lib.Vault"] [.null] true
  injections := []

theorem generate_vaultPlan :
    vaultPlan.generate vaultBuild {} mainForest {} = .ok (contextOf vaultWiring) := by
  refine ContextPlan.generate_of_plain (t := vaultClass) rfl rfl rfl ⟨rfl, rfl, rfl, rfl⟩
    (by decide) List.not_mem_nil (fun catalog alone => ?_) (by decide)
  have arguments := Assembly.arguments_of_single "constructor"
    (e := .ofConstructor "lib.Vault" { parameters := [vaultParameter] }) rfl
    (Assembly.value?_of_alone (a := vaultPlan.assembly vaultBuild mainForest catalog) alone
      vaultParameter.point rfl rfl rfl rfl rfl)
  exact Assembly.wire_of_parts (Assembly.construct_of_single (t := vaultClass) rfl arguments)
    (Assembly.injections_of_plain (t := vaultClass) rfl rfl rfl rfl)

end Sample

/-- The hidden class is looked up as the type of the definition and as that of the parameter, and
is found, since the native image is asked for it on behalf of the definition. -/
theorem ContextPlan.lookups_load_vaultPlan :
    ∃ context, Sample.vaultPlan.generate Sample.vaultBuild {} Sample.mainForest {} = .ok context ∧
      let site : Site := ⟨Sample.vaultBuild.classPath, Sample.mainForest.package⟩
      (∀ c ∈ context.added Sample.mainForest, ∀ name ∈ site.lookupsOf c,
        context.config.Loads name) ∧
      ∃ c ∈ context.added Sample.mainForest, "lib.Vault" ∈ site.lookupsOf c ∧
        ∃ w ∈ c.wirings, "lib.Vault" ∈ w.parameterTypes ∧ site.canName "lib.Vault" = false :=
  ⟨_, Sample.generate_vaultPlan, (lookups_load_iff Sample.generate_vaultPlan).2 (by decide),
    Sample.mainPlan.initializer [Sample.vaultWiring], List.mem_singleton_self _, by decide +kernel,
    Sample.vaultWiring, List.mem_singleton_self _, by decide, by decide⟩

/-! ### A hidden parameter type -/

namespace Sample

/-- A class that only its own package can name. Nothing is registered for it. -/
def hiddenClass : TypeDecl where
  name := "lib.Hidden"
  visibility := .packageAccess

/-- An optional parameter of this type. Its value is looked for, and none is found. -/
def hiddenParameter : Parameter where
  name := "hidden"
  type := .raw "lib.Hidden"
  required := false

/-- A build with a class whose constructor has this parameter. The class itself is public, so that
nothing is asked for on its behalf. -/
def hiddenBuild : Build :=
  constructedBuild hiddenParameter hiddenClass (by decide)

/-- The parameter is passed nothing. The code is generated without a failure. -/
theorem generate_hiddenBuild :
    mainPlan.generate hiddenBuild {} mainForest {} =
      .ok (contextOf (constructedWiring hiddenParameter .null)) := by
  have value (catalog : Catalog)
      (alone : catalog.definitions = [(constructedClass hiddenParameter).rootDefinition]) :
      (mainPlan.assembly hiddenBuild mainForest catalog).value?
        (constructedClass hiddenParameter).rootDefinition.name hiddenParameter.point = .ok none :=
    Assembly.value?_of_alone alone hiddenParameter.point rfl rfl rfl rfl rfl
  exact generate_constructed value (by decide)

/-- The hidden type is looked up, but the native image is not asked for it. The lookup would
therefore fail when the program is run. -/
theorem not_lookups_load_hiddenParameter :
    ∃ context, mainPlan.generate hiddenBuild {} mainForest {} = .ok context ∧
      ∃ c ∈ context.added mainForest,
        "lib.Hidden" ∈ (⟨hiddenBuild.classPath, mainForest.package⟩ : Site).lookupsOf c ∧
          ¬ context.config.Loads "lib.Hidden" :=
  ⟨_, generate_hiddenBuild, mainPlan.initializer [constructedWiring hiddenParameter .null],
    List.mem_singleton_self _, by decide +kernel, by decide +kernel⟩

end Sample

end StaticWiring
