import StaticWiring.Proofs.Wiring.Value
import StaticWiring.Wiring.Resolution

/-!
# The members that a wiring uses

A wiring makes an instance by one of the constructors of its class, or by one of the overloads of a
factory method, and completes it with fields and setters of the class and its super classes. A
member is used by reflection if the generated code cannot use it. The values that are passed are
those that the parameters and fields ask for, so that they mention definitions of the catalog only.

## Main definitions

* `Assembly.Builds`, `Assembly.Calls` — how the instance of a definition is made, and with what.
* `Assembly.Injects`, `Assembly.Assigns` — how an instance of a class is completed, and with what.

The first of either pair leaves open what is asked of the values, the second asks what the
parameters and fields do.

## Main results

* `Assembly.calls_of_instantiate` — the instantiation that is found.
* `Assembly.injections_eq_ok` — the injections that are found, and what is requested on the way.
-/

namespace StaticWiring.Assembly

variable {a : Assembly} {d : Definition} {self : String} {t owner : TypeDecl}
  {instantiation : Instantiation} {injection : Injection}

/-! ### Instantiation -/

/-- How the instance of a definition is made, where every argument `passes` for its parameter. The
premise is left open, since the requests of a wiring need to know less about the arguments than the
generated code does. -/
inductive Builds (a : Assembly) (passes : Parameter → Value → Prop) (d : Definition) :
    Instantiation → Prop
  /-- A class without description has a public constructor without parameters. -/
  | undescribed (constructed : d.origin = .construction)
      (absent : a.classPath.get? d.type.name = none) :
    Builds a passes d (.construction [] [] false)
  /-- One of the constructors is called, by reflection if the generated code cannot use it. -/
  | construction {t : TypeDecl} {c : ConstructorDecl} {arguments : List Value}
      (constructed : d.origin = .construction) (found : a.classPath.get? d.type.name = some t)
      (declared : c ∈ t.effectiveConstructors)
      (passed : List.Forall₂ passes c.parameters arguments) :
    Builds a passes d
      (.construction (c.parameters.map (·.type)) arguments !a.canUse t c.visibility)
  /-- A factory method without description is public and has no parameters. -/
  | undescribedMethod {type method : String} {bean : Option String}
      (made : d.origin = .factoryMethod type bean method)
      (factory : ∀ name, bean = some name → name ∈ a.catalog.names)
      (absent : overloads (a.classPath.get? type) type method = []) :
    Builds a passes d (.factoryMethod type bean method [] []
      !a.canCall (a.classPath.get? type) .publicAccess)
  /-- One of the overloads of the factory method is called, by reflection if the generated code
  cannot use it. -/
  | overload {type method : String} {bean : Option String} {t : TypeDecl} {m : MethodDecl}
      {arguments : List Value} (made : d.origin = .factoryMethod type bean method)
      (factory : ∀ name, bean = some name → name ∈ a.catalog.names)
      (found : a.classPath.get? type = some t) (declared : m ∈ t.beanMethods)
      (named : m.name = method) (passed : List.Forall₂ passes m.parameters arguments) :
    Builds a passes d (.factoryMethod type bean method (m.parameters.map (·.type)) arguments
      !a.canUse t m.visibility)
  /-- The instance comes from an expression. -/
  | supplier {expression : String} (supplied : d.origin = .supplier expression) :
    Builds a passes d (.supplier expression)

/-- How the instance of a definition is made, and what is passed to the parameters: a value that
they ask for, or nothing where they are optional. It is the form in which all that is claimed about
arguments is known. -/
def Calls (a : Assembly) (d : Definition) (instantiation : Instantiation) : Prop :=
  a.Builds (a.Passes d.name) d instantiation

/-- What is asked of the arguments may be weakened. Results about arguments can thus be used where
only the definitions behind them matter. -/
theorem Builds.mono {passes passes' : Parameter → Value → Prop}
    (weaker : ∀ p v, passes p v → passes' p v) (h : a.Builds passes d instantiation) :
    a.Builds passes' d instantiation := by
  cases h with
  | undescribed constructed absent => exact .undescribed constructed absent
  | construction constructed found declared passed =>
    exact .construction constructed found declared (passed.imp weaker)
  | undescribedMethod made factory absent => exact .undescribedMethod made factory absent
  | overload made factory found declared named passed =>
    exact .overload made factory found declared named (passed.imp weaker)
  | supplier supplied => exact .supplier supplied

theorem calls_of_construct (constructed : d.origin = .construction)
    (h : a.construct d (a.classPath.get? d.type.name) = .ok instantiation) :
    a.Calls d instantiation := by
  simp only [construct] at h
  split at h
  · next absent =>
    cases h
    exact .undescribed constructed absent
  · next t found =>
    split at h
    · cases h
    · next e arguments chosen =>
      cases h
      obtain ⟨offered, called⟩ := choose_eq_ok chosen
      obtain ⟨c, declared, rfl⟩ := List.mem_map.1 offered
      exact .construction constructed found declared (passes_of_arguments called)

theorem calls_of_callFactory {type method : String} {bean : Option String}
    (made : d.origin = .factoryMethod type bean method)
    (h : a.callFactory d type bean method = .ok instantiation) : a.Calls d instantiation := by
  simp only [callFactory] at h
  split at h
  · cases h
  · next unknown =>
    have factory : ∀ name, bean = some name → name ∈ a.catalog.names := by
      intro name hname
      have kept := Option.filter_eq_none_iff.1 unknown name hname
      rwa [Bool.not_eq_true, Bool.not_eq_false', Catalog.contains_iff] at kept
    split at h
    · cases h
    · next parameterTypes arguments visibility chosen =>
      cases h
      simp only [chooseOverload] at chosen
      split at chosen
      · next absent =>
        cases chosen
        exact .undescribedMethod made factory absent
      · split at chosen
        · cases chosen
        · next e _ chosenOne =>
          cases chosen
          obtain ⟨offered, called⟩ := choose_eq_ok chosenOne
          cases found : a.classPath.get? type with
          | none => simp [overloads, found] at offered
          | some t =>
            simp only [overloads, found, List.mem_map, List.mem_filter, beq_iff_eq] at offered
            obtain ⟨m, ⟨declared, named⟩, rfl⟩ := offered
            exact .overload made factory found declared named (passes_of_arguments called)

theorem calls_of_instantiate (h : a.instantiate d = .ok instantiation) :
    a.Calls d instantiation := by
  simp only [instantiate] at h
  split at h
  · next constructed => exact calls_of_construct constructed h
  · next made => exact calls_of_callFactory made h
  · next supplied =>
    cases h
    exact .supplier supplied

/-! ### Injections -/

/-- How an instance of a class is completed, where every value `serves` its field or parameter. The
premise is left open as it is for `Builds`. -/
inductive Injects (a : Assembly) (serves : InjectionPoint → Value → Prop) (t : TypeDecl) :
    Injection → Prop
  /-- A field of the class or a super class is written, by reflection if the generated code cannot
  use it. -/
  | field {owner : TypeDecl} {f : FieldDecl} {value : Value}
      (above : owner ∈ a.classPath.hierarchy t) (declared : f ∈ injectedFields owner)
      (served : serves f.point value) :
    Injects a serves t (.field owner.name f.name f.type value !a.canUse owner f.visibility)
  /-- A setter of the class or a super class is called, by reflection if the generated code cannot
  use it. -/
  | setter {owner : TypeDecl} {m : MethodDecl} {arguments : List Value}
      (above : owner ∈ a.classPath.hierarchy t) (declared : m ∈ setters owner)
      (served : List.Forall₂ (fun p v => serves (m.point p) v) m.parameters arguments) :
    Injects a serves t (.method owner.name m.name (m.parameters.map (·.type)) arguments
      !a.canUse owner m.visibility)

/-- How an instance of a class is completed for the definition `self`, and what is assigned to the
fields and passed to the setters: a value that they ask for. -/
def Assigns (a : Assembly) (self : String) (t : TypeDecl) (injection : Injection) : Prop :=
  a.Injects (a.Serves self) t injection

/-- What is asked of the values may be weakened. It is the same for both kinds of members. -/
theorem Injects.mono {serves serves' : InjectionPoint → Value → Prop}
    (weaker : ∀ point v, serves point v → serves' point v) (h : a.Injects serves t injection) :
    a.Injects serves' t injection := by
  cases h with
  | field above declared served => exact .field above declared (weaker _ _ served)
  | setter above declared served =>
    exact .setter above declared (served.imp fun _ _ => weaker _ _)

theorem assigns_of_injectField {f : FieldDecl} (above : owner ∈ a.classPath.hierarchy t)
    (declared : f ∈ injectedFields owner)
    (h : a.injectField self owner f = .ok (some injection)) : a.Assigns self t injection := by
  simp only [injectField] at h
  split at h
  · cases h
  · next value found =>
    cases value with
    | none => cases h
    | some value =>
      cases h
      exact .field above declared (serves_of_value? found)

theorem serves_of_setterArguments? {signature : String} {m : MethodDecl} {i : Nat}
    {ps : List Parameter} {values : List Value}
    (h : a.setterArguments? self signature m i ps = .ok (some values)) :
    List.Forall₂ (fun p v => a.Serves self (m.point p) v) ps values := by
  induction ps generalizing i values with
  | nil =>
    cases h
    exact .nil
  | cons p ps ih =>
    simp only [setterArguments?] at h
    split at h
    · cases h
    · cases h
    · next value found =>
      split at h
      · cases h
      · next rest others =>
        cases rest with
        | none => cases h
        | some rest =>
          cases h
          exact .cons (serves_of_value? found) (ih others)

theorem assigns_of_injectMethod {m : MethodDecl} (above : owner ∈ a.classPath.hierarchy t)
    (declared : m ∈ setters owner) (h : a.injectMethod self owner m = .ok (some injection)) :
    a.Assigns self t injection := by
  simp only [injectMethod] at h
  split at h
  · cases h
  · next arguments called =>
    cases arguments with
    | none => cases h
    | some arguments =>
      cases h
      exact .setter above declared (serves_of_setterArguments? called)

theorem assigns_of_declaredInjections (above : owner ∈ a.classPath.hierarchy t)
    (h : .ok (some injection) ∈ a.declaredInjections self owner) : a.Assigns self t injection := by
  rcases List.mem_append.1 h with h | h
  · obtain ⟨f, declared, hf⟩ := List.mem_map.1 h
    exact assigns_of_injectField above declared hf
  · obtain ⟨m, declared, hm⟩ := List.mem_map.1 h
    exact assigns_of_injectMethod above declared hm

/-- What is collected was there, and what was requested on the way is what it asks for. The order of
the injections is the one of the attempts. -/
theorem collect_eq_ok {list : List (Except GenerationError (Option Injection))}
    {injections : List Injection} (h : (collect list).outcome = .ok injections) :
    (∀ injection ∈ injections, .ok (some injection) ∈ list) ∧
      (collect list).requests = injections.flatMap Injection.requests := by
  induction list generalizing injections with
  | nil =>
    cases h
    exact ⟨fun i hi => absurd hi List.not_mem_nil, rfl⟩
  | cons first rest ih =>
    rw [collect] at h ⊢
    obtain ⟨found, hfound, next⟩ := Attempt.outcome_bind_eq_ok.1 h
    obtain rfl : first = .ok found := hfound
    rw [Attempt.requests_bind_of_ok (Attempt.outcome_ofExcept _)]
    cases found with
    | none =>
      obtain ⟨mem, requests⟩ := ih next
      exact ⟨fun i hi => List.mem_cons_of_mem _ (mem i hi), requests⟩
    | some injection =>
      -- An injection requests its own metadata before the rest is collected.
      obtain ⟨-, -, next⟩ := Attempt.outcome_bind_eq_ok.1 next
      obtain ⟨others, hothers, next⟩ := Attempt.outcome_bind_eq_ok.1 next
      obtain ⟨mem, requests⟩ := ih hothers
      cases next
      constructor
      · intro i hi
        rcases List.mem_cons.1 hi with rfl | hi
        · exact List.mem_cons_self
        · exact List.mem_cons_of_mem _ (mem i hi)
      · rw [Attempt.requests_bind_of_ok (Attempt.outcome_request _),
          Attempt.requests_bind_of_ok hothers, requests]
        simp

theorem injections_eq_ok {injections : List Injection}
    (h : (a.injections d).outcome = .ok injections) :
    (∀ injection ∈ injections,
      ∃ t, a.classPath.get? d.type.name = some t ∧ a.Assigns d.name t injection) ∧
      (a.injections d).requests = injections.flatMap Injection.requests := by
  unfold Assembly.injections at h ⊢
  split at h
  · cases h
    exact ⟨fun i hi => absurd hi List.not_mem_nil, rfl⟩
  · cases h
    exact ⟨fun i hi => absurd hi List.not_mem_nil, rfl⟩
  · next t found _ =>
    obtain ⟨mem, requests⟩ := collect_eq_ok h
    refine ⟨fun injection hi => ?_, requests⟩
    obtain ⟨owner, above, declared⟩ := List.mem_flatMap.1 (mem injection hi)
    exact ⟨t, found, assigns_of_declaredInjections above declared⟩

end StaticWiring.Assembly
