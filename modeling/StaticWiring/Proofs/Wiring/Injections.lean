import StaticWiring.Proofs.ClassPath.Lineage
import StaticWiring.Proofs.Wiring.Plain

/-!
# Which members are injected

An instance is completed class by class, from the topmost described super class down to its own
class, and in each class by the fields and then by the setters, as they are declared. Left out are
the optional fields for which there is no value, and the setters with an optional parameter for
which there is none; all others are injected with the values that are found.

## Main definitions

* `Assembly.IsMissing` — an optional injection point without value.
* `Member`, `Member.ofClass` — the fields and setters of a class that are injected.
* `Assembly.LeavesOut`, `Assembly.Fills` — a member is left out, or injected.

## Main results

* `Assembly.value?_eq_none_iff` — where no value is found.
* `Assembly.forall₂_fills_of_collect` — the injections of members in order.
* `Assembly.wire_completes` — the injections of a wiring.
-/

namespace StaticWiring

namespace Assembly

variable {a : Assembly} {self : String} {point : InjectionPoint}

/-! ### Injection points without value -/

/-- There is no value for an injection point. The form of the point decides in which of these ways a
value is missing. -/
inductive Lacks (a : Assembly) (self : String) (point : InjectionPoint) : Prop
  /-- The stated expression cannot be resolved. -/
  | expression {expression : String} {cause : PlaceholderError}
      (stated : point.expression = some expression)
      (unresolved : a.environment.resolve expression = .error cause)
  /-- There is no candidate for the element type of a collection. -/
  | collection {kind : CollectionKind} {element : TypeRef} (unstated : point.expression = none)
      (unprovided : ContainerObject.ofType? point.type.name = none)
      (collection : CollectionKind.ofType? point.type = some (kind, element))
      (empty : ∀ d, ¬ a.IsCandidate self element d)
  /-- There is no candidate for the type, or none that is the qualified one. -/
  | bean (unstated : point.expression = none)
      (unprovided : ContainerObject.ofType? point.type.name = none)
      (single : CollectionKind.ofType? point.type = none)
      (empty : ∀ d, a.IsCandidate self point.type d →
        ∃ qualifier, point.qualifier = some qualifier ∧ d.name ≠ qualifier)

/-- The injection point is optional, and there is no value for it. A required point without value
would be a failure. -/
structure IsMissing (a : Assembly) (self : String) (point : InjectionPoint) : Prop where
  /-- There need not be a value. -/
  optional : point.required = false
  /-- There is none. -/
  lacks : a.Lacks self point

theorem absent_eq_none_iff {required : Bool} {fault : DependencyFault} :
    absent required fault = .ok none ↔ required = false := by
  cases required <;> simp [absent]

theorem candidates_eq_nil_iff {type : TypeRef} :
    a.candidates self type = [] ↔ ∀ d, ¬ a.IsCandidate self type d := by
  simp only [List.eq_nil_iff_forall_not_mem, mem_candidates]

theorem literal?_eq_none_iff {expression : String} :
    a.literal? point expression = .ok none ↔
      point.required = false ∧ ∃ cause, a.environment.resolve expression = .error cause := by
  rw [literal?]
  cases a.environment.resolve expression with
  | error cause => simp [absent_eq_none_iff]
  | ok text => cases h : Literal.ofText? a.classPath point.type.name text <;> simp [h]

theorem collection?_eq_none_iff {kind : CollectionKind} {element : TypeRef} :
    a.collection? self point kind element = .ok none ↔
      point.required = false ∧ ∀ d, ¬ a.IsCandidate self element d := by
  rw [collection?, ← candidates_eq_nil_iff]
  cases a.candidates self element <;> simp [absent_eq_none_iff]

theorem prefer_eq_nil_iff {p : Definition → Bool} {ds : List Definition} :
    prefer p ds = [] ↔ ds = [] := by
  unfold prefer
  split
  · next preferred =>
    simp only [Bool.and_eq_true, decide_eq_true_eq, beq_iff_eq] at preferred
    constructor
    · intro none
      rw [none] at preferred
      exact absurd preferred.2 (by decide)
    · rintro rfl
      rfl
  · rfl

theorem single?_eq_none_iff {ds : List Definition} :
    single? point ds = .ok none ↔ point.required = false ∧ ds = [] := by
  have empty : narrow point.name ds = [] ↔ ds = [] :=
    prefer_eq_nil_iff.trans prefer_eq_nil_iff
  rw [single?, ← empty]
  cases narrow point.name ds with
  | nil => simp [absent_eq_none_iff]
  | cons d others => cases others <;> simp

theorem bean?_eq_none_iff :
    a.bean? self point = .ok none ↔ point.required = false ∧ ∀ d, a.IsCandidate self point.type d →
      ∃ qualifier, point.qualifier = some qualifier ∧ d.name ≠ qualifier := by
  cases stated : point.qualifier with
  | none => simp [bean?, stated, single?_eq_none_iff, candidates_eq_nil_iff]
  | some qualifier =>
    have empty : (a.candidates self point.type).filter (·.name == qualifier) = [] ↔
        ∀ d, a.IsCandidate self point.type d →
          ∃ q, some qualifier = some q ∧ d.name ≠ q := by
      simp [List.filter_eq_nil_iff, mem_candidates]
    rw [← empty]
    simp only [bean?, stated]
    cases h : (a.candidates self point.type).filter (·.name == qualifier) with
    | nil => simp [absent_eq_none_iff]
    | cons d ds => simp [single?_eq_none_iff]

/-- No value is found for an injection point exactly if it is optional and there is none. All other
results are values or failures. -/
theorem value?_eq_none_iff : a.value? self point = .ok none ↔ a.IsMissing self point := by
  constructor
  · intro h
    simp only [value?] at h
    split at h
    · next expression stated =>
      obtain ⟨optional, cause, unresolved⟩ := literal?_eq_none_iff.1 h
      exact ⟨optional, .expression stated unresolved⟩
    · next unstated =>
      split at h
      · cases h
      · next unprovided =>
        split at h
        · next collection =>
          obtain ⟨optional, empty⟩ := collection?_eq_none_iff.1 h
          exact ⟨optional, .collection unstated unprovided collection empty⟩
        · next single =>
          obtain ⟨optional, empty⟩ := bean?_eq_none_iff.1 h
          exact ⟨optional, .bean unstated unprovided single empty⟩
  · rintro ⟨optional, lacks⟩
    cases lacks with
    | expression stated unresolved =>
      simp only [value?, stated]
      exact literal?_eq_none_iff.2 ⟨optional, _, unresolved⟩
    | collection unstated unprovided collection empty =>
      simp only [value?, unstated, unprovided, collection]
      exact collection?_eq_none_iff.2 ⟨optional, empty⟩
    | bean unstated unprovided single empty =>
      simp only [value?, unstated, unprovided, single]
      exact bean?_eq_none_iff.2 ⟨optional, empty⟩

instance : Decidable (a.IsMissing self point) :=
  decidable_of_iff (a.value? self point matches .ok none) (by
    rw [← value?_eq_none_iff]
    split <;> simp_all)

end Assembly

/-! ### Members -/

/-- A field or a setter of a class that is injected. Both kinds are injected in one sequence. -/
inductive Member where
  /-- A field that is written. -/
  | field (f : FieldDecl)
  /-- A setter that is called. -/
  | setter (m : MethodDecl)

/-- The members of a class that are injected, each beside its class: the fields that are marked or
carry a value, and then the setters that are no factory methods. -/
def Member.ofClass (owner : TypeDecl) : List (TypeDecl × Member) :=
  (Assembly.injectedFields owner).map (owner, .field ·) ++
    (Assembly.setters owner).map (owner, .setter ·)

namespace Assembly

variable {a : Assembly} {d : Definition} {self : String} {owner : TypeDecl}
  {site : TypeDecl × Member}

/-- The member is left out, since a value is missing. A setter is left out as a whole. -/
def LeavesOut (a : Assembly) (self : String) : Member → Prop
  | .field f => a.IsMissing self f.point
  | .setter m => ∃ p ∈ m.parameters, a.IsMissing self (m.point p)

instance (m : Member) : Decidable (a.LeavesOut self m) :=
  match m with
  | .field f => inferInstanceAs (Decidable (a.IsMissing self f.point))
  | .setter m => inferInstanceAs (Decidable (∃ p ∈ m.parameters, a.IsMissing self (m.point p)))

/-- The injection of a member of a class, with the values that are found for the member. Whether it
works by reflection depends on the visibility of the member and its class. -/
inductive Fills (a : Assembly) (self : String) : TypeDecl × Member → Injection → Prop
  /-- A value is written to the field. -/
  | field {owner : TypeDecl} {f : FieldDecl} {value : Value}
      (found : a.value? self f.point = .ok (some value)) :
    Fills a self (owner, .field f)
      (.field owner.name f.name f.type value !a.canUse owner f.visibility)
  /-- One value for each parameter is passed to the setter. -/
  | setter {owner : TypeDecl} {m : MethodDecl} {arguments : List Value}
      (found : List.Forall₂ (fun p value => a.value? self (m.point p) = .ok (some value))
        m.parameters arguments) :
    Fills a self (owner, .setter m)
      (.method owner.name m.name (m.parameters.map (·.type)) arguments
        !a.canUse owner m.visibility)

/-- The injection of a member of a class, absent if the member is left out. It is the step that the
program takes for each member. -/
def injectMember (a : Assembly) (self : String) :
    TypeDecl × Member → Except GenerationError (Option Injection)
  | (owner, .field f) => a.injectField self owner f
  | (owner, .setter m) => a.injectMethod self owner m

theorem declaredInjections_eq (a : Assembly) (self : String) :
    a.declaredInjections self = fun owner => (Member.ofClass owner).map (a.injectMember self) := by
  funext owner
  rw [declaredInjections, Member.ofClass, List.map_append, List.map_map, List.map_map]
  rfl

/-- What is found for the parameters of a setter: a value for each, or none for one of them. The
first parameter without value decides. -/
theorem setterArguments?_eq_ok {signature : String} {m : MethodDecl} {i : Nat}
    {ps : List Parameter} {found : Option (List Value)}
    (h : a.setterArguments? self signature m i ps = .ok found) :
    (found = none ∧ ∃ p ∈ ps, a.IsMissing self (m.point p)) ∨
    ∃ values, found = some values ∧
      List.Forall₂ (fun p value => a.value? self (m.point p) = .ok (some value)) ps values := by
  induction ps generalizing i found with
  | nil =>
    cases h
    exact .inr ⟨[], rfl, .nil⟩
  | cons p ps ih =>
    rw [setterArguments?] at h
    split at h
    · cases h
    · next missing =>
      cases h
      exact .inl ⟨rfl, p, List.mem_cons_self, value?_eq_none_iff.1 missing⟩
    · next value here =>
      split at h
      · cases h
      · next rest others =>
        cases h
        rcases ih others with ⟨rfl, q, hq, missing⟩ | ⟨values, rfl, filled⟩
        · exact .inl ⟨rfl, q, List.mem_cons_of_mem p hq, missing⟩
        · exact .inr ⟨value :: values, rfl, .cons here filled⟩

/-- An injection point with a value is not missing. The two results are told apart. -/
theorem not_isMissing_of_value? {point : InjectionPoint} {value : Value}
    (found : a.value? self point = .ok (some value)) : ¬ a.IsMissing self point := by
  intro missing
  rw [value?_eq_none_iff.2 missing] at found
  cases found

theorem Fills.not_leavesOut {injection : Injection} (h : a.Fills self site injection) :
    ¬ a.LeavesOut self site.2 := by
  cases h with
  | field found => exact not_isMissing_of_value? found
  | setter found =>
    rintro ⟨p, hp, missing⟩
    obtain ⟨i, inside, rfl⟩ := List.getElem_of_mem hp
    exact not_isMissing_of_value? (found.get inside (found.length_eq ▸ inside)) missing

/-- A member is left out, or it is injected. A failure ends the wiring, and is no case here. -/
theorem injectMember_eq_ok {found : Option Injection} (h : a.injectMember self site = .ok found) :
    (found = none ∧ a.LeavesOut self site.2) ∨
      ∃ injection, found = some injection ∧ a.Fills self site injection := by
  obtain ⟨owner, m⟩ := site
  cases m with
  | field f =>
    simp only [injectMember, injectField] at h
    split at h
    · cases h
    · next value here =>
      cases h
      cases value with
      | none => exact .inl ⟨rfl, value?_eq_none_iff.1 here⟩
      | some value => exact .inr ⟨_, rfl, .field here⟩
  | setter m =>
    simp only [injectMember, injectMethod] at h
    split at h
    · cases h
    · next arguments here =>
      cases h
      rcases setterArguments?_eq_ok here with ⟨rfl, missing⟩ | ⟨values, rfl, filled⟩
      · exact .inl ⟨rfl, missing⟩
      · exact .inr ⟨_, rfl, .setter filled⟩

/-- The members that are not left out are injected one after the other. Their order is that of the
members. -/
theorem forall₂_fills_of_collect {sites : List (TypeDecl × Member)} {injections : List Injection}
    (h : (collect (sites.map (a.injectMember self))).outcome = .ok injections) :
    List.Forall₂ (a.Fills self) (sites.filter fun site => ¬ a.LeavesOut self site.2)
      injections := by
  induction sites generalizing injections with
  | nil =>
    cases h
    exact .nil
  | cons site sites ih =>
    rw [List.map_cons, collect] at h
    obtain ⟨found, hfound, next⟩ := Attempt.outcome_bind_eq_ok.1 h
    rcases injectMember_eq_ok hfound with ⟨rfl, out⟩ | ⟨injection, rfl, fills⟩
    · rw [List.filter_cons_of_neg (by simpa using out)]
      exact ih next
    · obtain ⟨-, -, next⟩ := Attempt.outcome_bind_eq_ok.1 next
      obtain ⟨others, hothers, next⟩ := Attempt.outcome_bind_eq_ok.1 next
      cases next
      rw [List.filter_cons_of_pos (by simpa using fills.not_leavesOut)]
      exact .cons fills (ih hothers)

/-- The injections of a described class are those of its super classes and its own. The induction is
along the chain of super classes, from the top down. -/
theorem forall₂_fills_of_inject {t : TypeDecl} {injections : List Injection}
    (h : (a.inject self t).outcome = .ok injections) :
    List.Forall₂ (a.Fills self)
      (((a.classPath.lineage [] t).reverse.flatMap Member.ofClass).filter
        fun site => ¬ a.LeavesOut self site.2) injections := by
  refine forall₂_fills_of_collect ?_
  rwa [inject, declaredInjections_eq, ClassPath.hierarchy, ← List.map_flatMap] at h

end Assembly

/-! ### A boatyard -/

namespace Sample

/-- A radar that can be done without. It is left out of the wiring. -/
def radarField : FieldDecl where
  name := "radar"
  type := .raw "lib.Radar"
  inject := true
  required := false

/-- An engine. It belongs to the super class. -/
def engineField : FieldDecl where
  name := "engine"
  type := .raw "lib.Engine"
  inject := true

/-- An engine. It has no name, and is found by its type. -/
def engineParameter : Parameter where
  type := .raw "lib.Engine"

/-- A setter for the engine. It is called in any case. -/
def engineSetter : MethodDecl where
  name := "setEngine"
  parameters := [engineParameter]
  inject := true

/-- An optional setter for the engine and the radar. It is left out, since there is no radar. -/
def radarSetter : MethodDecl where
  name := "setRadar"
  parameters := [engineParameter, { type := .raw "lib.Radar" }]
  inject := true
  required := false

/-- A class that extends a class that extends it again. Its chain of super classes ends where the
cycle closes. -/
def boatClass : TypeDecl where
  name := "app.Boat"
  superType := some "app.Vessel"
  methods := [radarSetter, engineSetter]

/-- The other class. It has the fields, which are injected first. -/
def vesselClass : TypeDecl where
  name := "app.Vessel"
  superType := some "app.Boat"
  fields := [radarField, engineField]

/-- The definition of the first class. It is the one that is wired. -/
def boatDefinition : Definition where
  name := "boat"
  type := .raw "app.Boat"

/-- The definition of the engine. It is the only other one. -/
def engineDefinition : Definition where
  name := "engine"
  type := .raw "lib.Engine"

/-- There is an engine but no radar. The cyclic class path is one that can be read. -/
def boatyard : Assembly where
  classPath := { types := [boatClass, vesselClass], nodup_names := by decide }
  catalog := { definitions := [boatDefinition, engineDefinition], nodup_names := by decide }
  environment := {}
  package := "app"

/-- The engine as a value. It is found for the field and for the setter. -/
def engineValue : Value :=
  .bean "engine" (.raw "lib.Engine")

/-- The engine is injected, and the radar is left out. The members of the super class come first. -/
def boatWiring : Wiring where
  definition := boatDefinition
  typeAccessible := true
  instantiation := .construction [] [] false
  injections := [.field "app.Vessel" "engine" (.raw "lib.Engine") engineValue true,
    .method "app.Boat" "setEngine" [.raw "lib.Engine"] [engineValue] false]

theorem lineage_boatClass : boatyard.classPath.lineage [] boatClass = [boatClass, vesselClass] := by
  refine (ClassPath.isLineage_iff.1 ⟨rfl, List.isChain_pair.2 rfl, by decide, ?_⟩).symm
  rintro _ ⟨⟩ _ ⟨⟩
  decide

section

variable {point : InjectionPoint}

theorem value?_engine (type : point.type = .raw "lib.Engine") (unstated : point.expression = none)
    (unqualified : point.qualifier = none) :
    boatyard.value? "boat" point = .ok (some engineValue) := by
  have found : boatyard.candidates "boat" (.raw "lib.Engine") = [engineDefinition] := by cbv
  rw [← type] at found
  rw [Assembly.value?_of_single found unstated (by rw [type]; rfl) (by rw [type]; rfl) unqualified,
    type]
  rfl

theorem value?_radar (type : point.type = .raw "lib.Radar") (unstated : point.expression = none)
    (optional : point.required = false) :
    boatyard.value? "boat" point = .ok none := by
  have found : boatyard.candidates "boat" (.raw "lib.Radar") = [] := by cbv
  refine Assembly.value?_eq_none_iff.2 ⟨optional, ?_⟩
  refine .bean unstated (by rw [type]; rfl) (by rw [type]; rfl) fun d candidate => ?_
  rw [type] at candidate
  exact absurd candidate (Assembly.candidates_eq_nil_iff.1 found d)

end

theorem injections_boatDefinition :
    (boatyard.injections boatDefinition).outcome = .ok boatWiring.injections := by
  have noRadar : boatyard.injectField "boat" vesselClass radarField = .ok none := by
    rw [Assembly.injectField, value?_radar rfl rfl rfl]
    rfl
  have engine : boatyard.injectField "boat" vesselClass engineField =
      .ok (some (.field "app.Vessel" "engine" (.raw "lib.Engine") engineValue true)) := by
    rw [Assembly.injectField, value?_engine rfl rfl rfl]
    rfl
  have skipped : boatyard.injectMethod "boat" boatClass radarSetter = .ok none := by
    simp [Assembly.injectMethod, radarSetter, Assembly.setterArguments?, engineParameter,
      MethodDecl.point, Parameter.point, value?_engine, value?_radar]
  have setEngine : boatyard.injectMethod "boat" boatClass engineSetter =
      .ok (some (.method "app.Boat" "setEngine" [.raw "lib.Engine"] [engineValue] false)) := by
    have usable : boatyard.canUse boatClass .publicAccess = true := rfl
    have owner : boatClass.name = "app.Boat" := rfl
    simp [Assembly.injectMethod, engineSetter, Assembly.setterArguments?, engineParameter,
      MethodDecl.point, Parameter.point, value?_engine, usable, owner]
  show (Assembly.collect ((boatyard.classPath.hierarchy boatClass).flatMap
    (boatyard.declaredInjections "boat"))).outcome = _
  rw [ClassPath.hierarchy, lineage_boatClass]
  show (Assembly.collect [boatyard.injectField "boat" vesselClass radarField,
    boatyard.injectField "boat" vesselClass engineField,
    boatyard.injectMethod "boat" boatClass radarSetter,
    boatyard.injectMethod "boat" boatClass engineSetter]).outcome = _
  rw [noRadar, engine, skipped, setEngine]
  rfl

theorem wire_boatDefinition : (boatyard.wire boatDefinition).outcome = .ok boatWiring :=
  Assembly.wire_of_parts
    (Assembly.construct_of_single (a := boatyard) (d := boatDefinition) (t := boatClass) rfl rfl)
    injections_boatDefinition

end Sample

namespace Assembly

variable {a : Assembly} {d : Definition}

/-! ### The injections of a wiring -/

/-- A described class that is wired has exactly one chain of super classes. From its top down, and
in each class from the fields to the setters, the members that are not left out are injected in
order. -/
theorem wire_completes {w : Wiring} {t : TypeDecl} (h : (a.wire d).outcome = .ok w)
    (unsupplied : ∀ expression, d.origin ≠ .supplier expression)
    (described : a.classPath.get? d.type.name = some t) :
    ∃ chain, (∀ other, a.classPath.IsLineage t other ↔ other = chain) ∧
      List.Forall₂ (a.Fills d.name)
        ((chain.reverse.flatMap Member.ofClass).filter fun site => ¬ a.LeavesOut d.name site.2)
        w.injections := by
  obtain ⟨-, injections, -, completed, rfl, -⟩ := exists_parts_of_wire h
  refine ⟨a.classPath.lineage [] t, fun _ => ClassPath.isLineage_iff, ?_⟩
  refine forall₂_fills_of_inject ?_
  rw [Assembly.injections, described] at completed
  split at completed
  · next supplied => exact absurd supplied (unsupplied _)
  · next absent _ => cases absent
  · next found _ =>
    cases found
    exact completed

theorem wire_completes_boatDefinition :
    (Sample.boatyard.wire Sample.boatDefinition).outcome = .ok Sample.boatWiring ∧
    (∀ expression, Sample.boatDefinition.origin ≠ .supplier expression) ∧
    Sample.boatyard.classPath.get? Sample.boatDefinition.type.name = some Sample.boatClass ∧
    ∃ chain, (∀ other, Sample.boatyard.classPath.IsLineage Sample.boatClass other ↔
        other = chain) ∧
      List.Forall₂ (Sample.boatyard.Fills "boat")
        ((chain.reverse.flatMap Member.ofClass).filter
          fun site => ¬ Sample.boatyard.LeavesOut "boat" site.2)
        Sample.boatWiring.injections := by
  have unsupplied : ∀ expression, Sample.boatDefinition.origin ≠ .supplier expression :=
    nofun
  exact ⟨Sample.wire_boatDefinition, unsupplied, rfl,
    wire_completes Sample.wire_boatDefinition unsupplied rfl⟩

end Assembly

end StaticWiring
