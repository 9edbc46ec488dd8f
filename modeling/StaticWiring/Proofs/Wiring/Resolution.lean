import Mathlib.Data.List.Forall2
import StaticWiring.Proofs.Schedule.Order
import StaticWiring.Proofs.Wiring.Members
import StaticWiring.Registration

/-!
# What wirings satisfy

A wiring that is found for a definition mentions definitions of the catalog only, and it uses a
member without reflection only if the generated code can name the type that declares the member. All
definitions of the catalog are wired, in their order, and every request that is made on the way is
one of a wiring.

## Main definitions

* `Assembly.site` — where the generated code of an assembly stands.
* `Instantiation.directOwner?`, `Injection.directOwner?` — the type whose member is used without
  reflection.
* `Assembly.Obtains`, `Assembly.Completes`, `Assembly.Wires` — the facts about an instantiation, an
  injection and the wiring of a definition.

## Main results

* `Assembly.obtains_of_builds`, `Assembly.completes_of_injects` — the parts of a wiring.
* `Assembly.exists_parts_of_wire` — a wiring has an instantiation and injections.
* `Assembly.wire_eq_ok`, `Assembly.wireAll_eq_ok` — the wirings and what is requested on the way.
-/

namespace StaticWiring

/-! ### Super classes -/

theorem ClassPath.get?_of_mem_lineage {cp : ClassPath} {seen : List String} {t u : TypeDecl}
    (ht : cp.get? t.name = some t) (hu : u ∈ cp.lineage seen t) : cp.get? u.name = some u := by
  fun_induction ClassPath.lineage cp seen t with
  | case1 seen t _ | case2 seen t _ _ _ | case3 seen t _ _ _ _ _ =>
    rwa [List.mem_singleton.1 hu]
  | case4 seen t _ _ parent found _ _ ih =>
    rcases List.mem_cons.1 hu with rfl | hu
    · exact ht
    · exact ih (by rwa [name_of_get? found]) hu

theorem ClassPath.get?_of_mem_hierarchy {cp : ClassPath} {t u : TypeDecl}
    (ht : cp.get? t.name = some t) (hu : u ∈ cp.hierarchy t) : cp.get? u.name = some u :=
  get?_of_mem_lineage ht (List.mem_reverse.1 hu)

/-! ### Members that are used without reflection -/

/-- The type whose member makes an instance of `type` without reflection. The code has to be able to
name it. -/
def Instantiation.directOwner? (type : String) : Instantiation → Option String
  | construction _ _ reflective => if reflective then none else some type
  | factoryMethod declaringType _ _ _ _ reflective =>
    if reflective then none else some declaringType
  | supplier _ => none

/-- The type whose member is injected without reflection. A member that is used by reflection has
none. -/
def Injection.directOwner? : Injection → Option String
  | field declaringType _ _ _ reflective => if reflective then none else some declaringType
  | method declaringType _ _ _ reflective => if reflective then none else some declaringType

namespace Assembly

variable {a : Assembly} {d : Definition}

/-- Where the generated code stands. The package decides what it can see. -/
def site (a : Assembly) : Site :=
  ⟨a.classPath, a.package⟩

theorem canName_site_of_get? {name : String} {t : TypeDecl} (h : a.classPath.get? name = some t) :
    a.site.canName name = a.canName t := by
  simp only [Site.canName, site, h, Option.all_some, canName]

theorem canName_site_of_canUse {name : String} {t : TypeDecl} {member : Visibility}
    (h : a.classPath.get? name = some t) (use : a.canUse t member = true) :
    a.site.canName name = true := by
  rw [canName_site_of_get? h]
  simp only [canUse, Bool.and_eq_true] at use
  exact use.1

/-! ### Instantiation -/

/-- The facts about how an instance of `type` is obtained. Later results about the code are derived
from these facts. -/
structure Obtains (a : Assembly) (type : String) (instantiation : Instantiation) : Prop where
  /-- It mentions definitions of the catalog. -/
  mem_names : ∀ name ∈ instantiation.references, name ∈ a.catalog.names
  /-- The generated code can name the type whose member is used without reflection. -/
  canName_direct : ∀ owner, instantiation.directOwner? type = some owner →
    a.site.canName owner = true

theorem mem_names_of_knows {values : List Value} (h : ∀ v ∈ values, a.Knows v) :
    ∀ name ∈ values.flatMap Value.references, name ∈ a.catalog.names := by
  intro name hname
  obtain ⟨v, hv, hname⟩ := List.mem_flatMap.1 hname
  exact h v hv name hname

/-- A member that is used without reflection can be used by the generated code. The member and its
type are both visible then. -/
theorem canUse_of_direct {use : Bool} {type owner : String}
    (h : (if (!use) = true then none else some type) = some owner) : use = true ∧ type = owner := by
  cases use with
  | false => cases h
  | true => exact ⟨rfl, Option.some.inj h⟩

theorem canName_site_of_canCall {type : String} {method : Visibility}
    (h : a.canCall (a.classPath.get? type) method = true) : a.site.canName type = true := by
  cases described : a.classPath.get? type with
  | none => simp only [Site.canName, site, described, Option.all_none]
  | some t =>
    rw [described] at h
    exact canName_site_of_canUse described h

theorem mem_names_of_factory {bean : Option String} {values : List Value}
    (factory : ∀ name, bean = some name → name ∈ a.catalog.names)
    (known : ∀ v ∈ values, a.Knows v) :
    ∀ name ∈ bean.toList ++ values.flatMap Value.references, name ∈ a.catalog.names := by
  intro name hname
  rcases List.mem_append.1 hname with hname | hname
  · exact factory name (Option.mem_toList.1 hname)
  · exact mem_names_of_knows known name hname

theorem obtains_of_builds {instantiation : Instantiation}
    (h : a.Builds (fun _ v => a.Knows v) d instantiation) :
    a.Obtains d.type.name instantiation := by
  cases h with
  | undescribed _ absent =>
    refine ⟨fun name hname => absurd hname List.not_mem_nil, fun owner howner => ?_⟩
    obtain rfl : d.type.name = owner := Option.some.inj howner
    simp only [Site.canName, site, absent, Option.all_none]
  | construction _ found _ passed =>
    refine ⟨mem_names_of_knows (knows_of_forall₂ passed), fun owner howner => ?_⟩
    obtain ⟨use, rfl⟩ := canUse_of_direct howner
    exact canName_site_of_canUse found use
  | undescribedMethod _ factory _ =>
    refine ⟨mem_names_of_factory factory fun v hv => absurd hv List.not_mem_nil,
      fun owner howner => ?_⟩
    obtain ⟨use, rfl⟩ := canUse_of_direct howner
    exact canName_site_of_canCall use
  | overload _ factory found _ _ passed =>
    refine ⟨mem_names_of_factory factory (knows_of_forall₂ passed), fun owner howner => ?_⟩
    obtain ⟨use, rfl⟩ := canUse_of_direct howner
    exact canName_site_of_canUse found use
  | supplier _ =>
    exact ⟨fun name hname => absurd hname List.not_mem_nil, fun owner howner => by cases howner⟩

/-! ### Injections -/

/-- The facts about an injection. They are those of an instantiation, said of an injection. -/
structure Completes (a : Assembly) (injection : Injection) : Prop where
  /-- It mentions definitions of the catalog. -/
  mem_names : ∀ name ∈ injection.references, name ∈ a.catalog.names
  /-- The generated code can name the type whose member is used without reflection. -/
  canName_direct : ∀ owner, injection.directOwner? = some owner → a.site.canName owner = true

theorem completes_of_injects {t : TypeDecl} {injection : Injection}
    (described : a.classPath.get? t.name = some t)
    (h : a.Injects (fun _ v => a.Knows v) t injection) : a.Completes injection := by
  cases h with
  | field above _ served =>
    refine ⟨served, fun owner howner => ?_⟩
    obtain ⟨use, rfl⟩ := canUse_of_direct howner
    exact canName_site_of_canUse (ClassPath.get?_of_mem_hierarchy described above) use
  | setter above _ served =>
    refine ⟨mem_names_of_knows (knows_of_forall₂ served), fun owner howner => ?_⟩
    obtain ⟨use, rfl⟩ := canUse_of_direct howner
    exact canName_site_of_canUse (ClassPath.get?_of_mem_hierarchy described above) use

/-! ### Wirings -/

/-- The facts about the wiring of a definition. It is the specification that all results about
generated contexts start from. -/
structure Wires (a : Assembly) (d : Definition) (w : Wiring) : Prop where
  /-- It is the wiring of the definition. -/
  definition_eq : w.definition = d
  /-- It says whether the generated code can name the definition's type. -/
  typeAccessible_eq : w.typeAccessible = a.site.canName d.type.name
  /-- How the instance is obtained. -/
  obtains : a.Obtains d.type.name w.instantiation
  /-- How it is completed. -/
  completes : ∀ injection ∈ w.injections, a.Completes injection

theorem Wires.mem_names {w : Wiring} (h : a.Wires d w) {name : String} (hname : w.Mentions name) :
    name ∈ a.catalog.names := by
  rcases hname with hname | ⟨injection, hi, hname⟩
  · exact h.obtains.mem_names name hname
  · exact (h.completes injection hi).mem_names name hname

/-- A wiring comes from an instantiation and injections, and what is requested on the way is what it
asks for. -/
theorem exists_parts_of_wire {w : Wiring} (h : (a.wire d).outcome = .ok w) :
    ∃ instantiation injections, a.instantiate d = .ok instantiation ∧
      (a.injections d).outcome = .ok injections ∧
      w = ⟨d, a.site.canName d.type.name, instantiation, injections⟩ ∧
      (a.wire d).requests = w.requests := by
  unfold wire at h ⊢
  obtain ⟨-, -, h⟩ := Attempt.outcome_bind_eq_ok.1 h
  obtain ⟨instantiation, hinstantiation, h⟩ := Attempt.outcome_bind_eq_ok.1 h
  obtain ⟨-, -, h⟩ := Attempt.outcome_bind_eq_ok.1 h
  obtain ⟨injections, hinjections, h⟩ := Attempt.outcome_bind_eq_ok.1 h
  cases h
  refine ⟨instantiation, injections, hinstantiation, hinjections, rfl, ?_⟩
  rw [Attempt.requests_bind_of_ok (Attempt.outcome_request _),
    Attempt.requests_bind_of_ok hinstantiation,
    Attempt.requests_bind_of_ok (Attempt.outcome_request _),
    Attempt.requests_bind_of_ok hinjections, (injections_eq_ok hinjections).2]
  simp [Wiring.requests]

theorem wire_eq_ok {w : Wiring} (h : (a.wire d).outcome = .ok w) :
    a.Wires d w ∧ (a.wire d).requests = w.requests := by
  obtain ⟨instantiation, injections, made, completed, rfl, requests⟩ := exists_parts_of_wire h
  have builds := (calls_of_instantiate made).mono fun _ _ => Passes.knows
  refine ⟨⟨rfl, rfl, obtains_of_builds builds, fun injection hi => ?_⟩, requests⟩
  obtain ⟨t, found, assigns⟩ := (injections_eq_ok completed).1 injection hi
  have described : a.classPath.get? t.name = some t := by rwa [ClassPath.name_of_get? found]
  exact completes_of_injects described (assigns.mono fun _ _ => Serves.knows)

theorem wireEach_eq_ok {ds : List Definition} {ws : List Wiring}
    (h : (a.wireEach ds).outcome = .ok ws) :
    List.Forall₂ a.Wires ds ws ∧ (a.wireEach ds).requests = ws.flatMap Wiring.requests := by
  induction ds generalizing ws with
  | nil =>
    cases h
    exact ⟨.nil, rfl⟩
  | cons d ds ih =>
    rw [wireEach] at h ⊢
    obtain ⟨w, hw, h⟩ := Attempt.outcome_bind_eq_ok.1 h
    obtain ⟨rest, hrest, h⟩ := Attempt.outcome_bind_eq_ok.1 h
    cases h
    obtain ⟨wires, requests⟩ := wire_eq_ok hw
    obtain ⟨allWire, allRequests⟩ := ih hrest
    refine ⟨.cons wires allWire, ?_⟩
    rw [Attempt.requests_bind_of_ok hw, Attempt.requests_bind_of_ok hrest, requests, allRequests]
    simp

/-- All definitions of the catalog are wired, in their order, and what is requested on the way is
what the wirings ask for. -/
theorem wireAll_eq_ok {ws : List Wiring} (h : a.wireAll.outcome = .ok ws) :
    List.Forall₂ a.Wires a.catalog.definitions ws ∧
      a.wireAll.requests = ws.flatMap Wiring.requests :=
  wireEach_eq_ok h

theorem map_definition_of_forall₂ {ds : List Definition} {ws : List Wiring}
    (h : List.Forall₂ a.Wires ds ws) : ws.map (·.definition) = ds := by
  induction h with
  | nil => rfl
  | cons wires _ ih => rw [List.map_cons, wires.definition_eq, ih]

theorem exists_wires_of_forall₂ {ds : List Definition} {ws : List Wiring}
    (h : List.Forall₂ a.Wires ds ws) {w : Wiring} (hw : w ∈ ws) : a.Wires w.definition w := by
  induction h with
  | nil => exact absurd hw List.not_mem_nil
  | cons wires _ ih =>
    rcases List.mem_cons.1 hw with rfl | hw
    · rwa [wires.definition_eq]
    · exact ih hw

end Assembly

end StaticWiring
