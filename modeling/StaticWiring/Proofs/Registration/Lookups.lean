import Mathlib.Data.List.Forall2
import StaticWiring.Registration

/-!
# Classes that are looked up by name

The code of a registration spells out the class objects of some types: the type of the definition,
the type that declares its factory method, the parameter types of the constructor or factory method,
and for each injection by reflection the declaring type and the parameter types. A class object
whose type the generated code cannot name is looked up at run time by the name of the type. Nothing
else in a registration is looked up, whatever values are injected and whatever methods are
called.

## Main definitions

* `Java.Expr.lookups`, `Registration.lookups` — the names that are looked up.
* `Wiring.literalTypes` — the types whose class objects a registration spells out.

## Main results

* `Site.lookups_value` — values look nothing up.
* `Site.mem_lookups_registration` — a registration looks up the types that cannot be named.
-/

namespace StaticWiring

open Java

/-! ### Lookups in code -/

namespace Java.Expr

/-- The class that the expression itself looks up by its name. The lookup is a call with the class
loader of the context. -/
def sought? : Expr → Option String
  | call (typeName helper) method [string type, call (var receiver) getter []] =>
    if helper = Framework.classUtils ∧ method = "resolveClassName" ∧ receiver = "context" ∧
      getter = "getClassLoader" then some type else none
  | _ => none

mutual

/-- The names of the classes that an expression looks up. Class objects that are spelled out are no
lookups. -/
def lookups : Expr → List String
  | code _ => []
  | var _ => []
  | string _ => []
  | character _ => []
  | typeName _ => []
  | classOf _ => []
  | constructorOf _ => []
  | construct _ _ arguments => lookupsInAll arguments
  | member receiver _ => receiver.lookups
  | call receiver method arguments =>
    (sought? (call receiver method arguments)).toList ++ receiver.lookups ++
      lookupsInAll arguments
  | cast _ e => e.lookups
  | parenthesized e => e.lookups

/-- The names of the classes that expressions look up. They are in the order of the expressions. -/
def lookupsInAll : List Expr → List String
  | [] => []
  | e :: es => e.lookups ++ lookupsInAll es

end

theorem lookupsInAll_eq_flatMap (es : List Expr) : lookupsInAll es = es.flatMap lookups := by
  induction es with
  | nil => rfl
  | cons e es ih => rw [lookupsInAll, ih, List.flatMap_cons]

theorem lookupsInAll_eq_nil {es : List Expr} (h : ∀ e ∈ es, e.lookups = []) :
    lookupsInAll es = [] := by
  rw [lookupsInAll_eq_flatMap]
  exact List.flatMap_eq_nil_iff.2 h

/-- A call of any other method looks nothing up itself. The name of the method is looked at first.
-/
theorem sought?_of_method_ne {receiver : Expr} {method : String} {arguments : List Expr}
    (h : method ≠ "resolveClassName") : sought? (call receiver method arguments) = none := by
  unfold sought?
  split
  · next shape =>
    cases shape
    simp [h]
  · rfl

theorem lookups_call {receiver : Expr} {method : String} {arguments : List Expr}
    (h : sought? (call receiver method arguments) = none) :
    (call receiver method arguments).lookups = receiver.lookups ++ lookupsInAll arguments := by
  rw [lookups, h, Option.toList_none, List.nil_append]

end Java.Expr

/-- The names of the classes that a statement looks up. A declaration looks up what its value does.
-/
def Java.Statement.lookups : Statement → List String
  | declare _ _ value => value.lookups
  | assign target value => target.lookups ++ value.lookups
  | evaluate e => e.lookups
  | give e => e.lookups

/-- The names of the classes that the code of a creation looks up. The statements that come before
the instance count as well. -/
def Creation.lookups (creation : Creation) : List String :=
  creation.statements.flatMap Statement.lookups ++ creation.instanceExpr.lookups

/-- The names of the classes that the code of a completion looks up. They are those of its
statements, in order. -/
def Completion.lookups (completion : Completion) : List String :=
  completion.statements.flatMap Statement.lookups

/-- The names of the classes that a supplier looks up. It is code that runs when the definition is
used. -/
def Supplier.lookups : Supplier → List String
  | function e => e.lookups
  | expression e => e.lookups
  | block statements => statements.flatMap Statement.lookups

/-- The names of the classes that a registration looks up. It is all the code that is written for a
definition. -/
def Registration.lookups (r : Registration) : List String :=
  r.head.lookups ++ r.customizations.flatMap Expr.lookups ++ r.supplier.lookups

/-! ### Types whose class objects are spelled out -/

/-- The types whose class objects the code of an instantiation spells out. They are needed to find a
constructor or method by its parameters. -/
def Instantiation.literalTypes : Instantiation → List String
  | construction parameterTypes _ _ => parameterTypes.map (·.name)
  | factoryMethod declaringType _ _ parameterTypes _ _ =>
    declaringType :: parameterTypes.map (·.name)
  | supplier _ => []

/-- The types whose class objects the code of an injection spells out: none, unless it works by
reflection. -/
def Injection.literalTypes : Injection → List String
  | field declaringType _ _ _ reflective => if reflective then [declaringType] else []
  | method declaringType _ parameterTypes _ reflective =>
    if reflective then declaringType :: parameterTypes.map (·.name) else []

/-- The types whose class objects the code of a registration spells out. Whether they can be named
decides in which way they are spelled out. -/
def Wiring.literalTypes (w : Wiring) : List String :=
  w.definition.type.name :: w.instantiation.literalTypes ++
    w.injections.flatMap Injection.literalTypes

/-! ### The variables of injections -/

/-- An injection has a variable exactly if it works by reflection. Names are only made for those
that want one. -/
theorem Injection.forall₂_variableNames (taken : List String) (injections : List Injection) :
    List.Forall₂ (fun injection var => var.isSome = injection.wantedName?.isSome) injections
      (variableNames taken injections) := by
  induction injections generalizing taken with
  | nil => exact .nil
  | cons injection injections ih =>
    unfold variableNames
    split
    · next direct => exact .cons (by rw [direct]) (ih taken)
    · next base reflective => exact .cons (by rw [reflective]; rfl) (ih _)

/-! ### Hidden types -/

/-- The types of a list that the generated code cannot name. Only these have to be looked up by
their names. -/
def Site.hidden (site : Site) (types : List String) : List String :=
  types.filter fun type => !site.canName type

namespace Site

variable {site : Site} {w : Wiring}

theorem mem_hidden {types : List String} {type : String} :
    type ∈ site.hidden types ↔ type ∈ types ∧ site.canName type = false := by
  simp [hidden]

theorem hidden_cons (type : String) (types : List String) :
    site.hidden (type :: types) = site.hidden [type] ++ site.hidden types := by
  simp only [hidden, ← List.filter_append, List.singleton_append]

/-! ### Class objects and values -/

theorem lookups_classLiteral (type : String) :
    (classLiteral type (site.canName type)).lookups = site.hidden [type] := by
  cases h : site.canName type
  · simp only [classLiteral, Bool.false_eq_true, if_false, hidden, h, Bool.not_false,
      List.filter_cons_of_pos, List.filter_nil]
    rfl
  · simp [classLiteral, hidden, h, Expr.lookups]

theorem lookups_classLiterals (types : List TypeRef) :
    Expr.lookupsInAll (site.classLiterals types) = site.hidden (types.map (·.name)) := by
  induction types with
  | nil => rfl
  | cons t types ih =>
    rw [List.map_cons, hidden_cons, ← ih, ← lookups_classLiteral]
    rfl

theorem lookups_reference (name : String) (type : TypeRef) :
    (site.reference name type).lookups = [] := by
  unfold reference
  split <;> rfl

theorem lookups_literal (l : Literal) : (literal l).lookups = [] := by
  cases l <;> rfl

/-- No value that is injected is looked up. Class objects are no values that can be injected. -/
theorem lookups_value (v : Value) : (site.value v).lookups = [] := by
  cases v with
  | bean name type => exact lookups_reference name type
  | beans kind element names =>
    rw [value, Expr.lookups_call (Expr.sought?_of_method_ne (by decide)),
      Expr.lookupsInAll_eq_nil]
    · rfl
    · intro e he
      obtain ⟨name, -, rfl⟩ := List.mem_map.1 he
      exact lookups_reference name element
  | container object => cases object <;> rfl
  | literal l => exact lookups_literal l
  | null => rfl

theorem lookups_values (vs : List Value) : Expr.lookupsInAll (vs.map site.value) = [] := by
  refine Expr.lookupsInAll_eq_nil fun e he => ?_
  obtain ⟨v, -, rfl⟩ := List.mem_map.1 he
  exact lookups_value v

/-- The class loader is no value that can be injected, so that a method of the application is never
mistaken for a lookup, whatever its name. -/
theorem sought?_call_values (receiver : Expr) (method : String) (vs : List Value) :
    Expr.sought? (.call receiver method (vs.map site.value)) = none := by
  unfold Expr.sought?
  split
  · next helper method' type receiver' getter shape =>
    injection shape with _ _ arguments
    refine if_neg fun names => ?_
    obtain ⟨v, rest, rfl, -, arguments⟩ := List.map_eq_cons_iff.1 arguments
    obtain ⟨v, rest, rfl, loader, -⟩ := List.map_eq_cons_iff.1 arguments
    cases v with
    | bean name type =>
      simp only [value, reference] at loader
      split at loader <;> cases loader
    | beans kind element names => cases loader
    | container object =>
      cases object <;> cases loader <;> exact absurd names.2.2.2 (by decide)
    | literal l => cases l <;> cases loader
    | null => cases loader
  · rfl

theorem lookups_call_values {receiver : Expr} {method : String} (vs : List Value) :
    (Expr.call receiver method (vs.map site.value)).lookups = receiver.lookups := by
  rw [Expr.lookups_call (sought?_call_values receiver method vs), lookups_values, List.append_nil]

theorem lookups_reflect {method : String} (h : method ≠ "resolveClassName")
    (arguments : List Expr) :
    (reflect method arguments).lookups = Expr.lookupsInAll arguments := by
  rw [reflect, Expr.lookups_call (Expr.sought?_of_method_ne h), Expr.lookups, List.nil_append]

/-! ### The head of a registration -/

theorem lookups_head (accessible : w.typeAccessible = site.canName w.definition.type.name) :
    (site.head w).lookups =
      site.hidden (w.definition.type.name :: w.instantiation.literalTypes) := by
  have start : (Expr.call (.typeName Framework.registrar) "of" [.string w.definition.name,
      classLiteral w.definition.type.name w.typeAccessible]).lookups =
        site.hidden [w.definition.type.name] := by
    rw [Expr.lookups_call (Expr.sought?_of_method_ne (by decide)), accessible,
      Expr.lookupsInAll_eq_flatMap]
    simp [Expr.lookups, lookups_classLiteral]
  rw [hidden_cons]
  unfold head
  cases w.instantiation with
  | construction parameterTypes arguments reflective =>
    simp only [Instantiation.literalTypes]
    split
    · next empty =>
      rw [start, List.isEmpty_iff.1 empty]
      exact (List.append_nil _).symm
    · rw [Expr.lookups_call (Expr.sought?_of_method_ne (by decide)), start, lookups_classLiterals]
  | factoryMethod declaringType factoryBean method parameterTypes arguments reflective =>
    simp only [Instantiation.literalTypes]
    rw [Expr.lookups_call (Expr.sought?_of_method_ne (by decide)), start, hidden_cons declaringType,
      Expr.lookupsInAll, Expr.lookupsInAll, lookups_classLiteral, lookups_classLiterals]
    rfl
  | supplier expression =>
    rw [start]
    exact (List.append_nil _).symm

/-! ### The creation and the completion of an instance -/

theorem lookups_factoryTarget (declaringType : String) (factoryBean : Option String) :
    (site.factoryTarget declaringType factoryBean).lookups = [] := by
  unfold factoryTarget
  split
  · rfl
  · split <;> rfl

theorem lookups_construction (parameterTypes : List TypeRef) (arguments : List Value)
    (reflective : Bool) (accessible : w.typeAccessible = site.canName w.definition.type.name) :
    (site.construction w parameterTypes arguments reflective).lookups =
      if reflective then
        site.hidden (w.definition.type.name :: parameterTypes.map (·.name)) else [] := by
  cases reflective with
  | true =>
    simp only [construction, Creation.lookups, if_true, List.flatMap_nil, List.nil_append]
    rw [Expr.lookups_call (Expr.sought?_of_method_ne (by decide)), Expr.lookups, Expr.lookupsInAll,
      lookups_reflect (by decide), Expr.lookupsInAll, lookups_values, accessible,
      lookups_classLiteral, lookups_classLiterals, ← hidden_cons, List.append_nil, List.nil_append]
  | false =>
    simp only [construction, Creation.lookups, Bool.false_eq_true, if_false, List.flatMap_nil,
      List.nil_append]
    split
    · rfl
    · exact lookups_values arguments

theorem lookups_factoryCall (declaringType : String) (factoryBean : Option String)
    (method : String) (parameterTypes : List TypeRef) (arguments : List Value)
    (reflective : Bool) :
    (site.factoryCall w declaringType factoryBean method parameterTypes arguments
        reflective).lookups =
      if reflective then site.hidden (declaringType :: parameterTypes.map (·.name)) else [] := by
  cases reflective with
  | true =>
    have receiver : (if factoryBean.isSome then site.factoryTarget declaringType factoryBean
        else Expr.code "null").lookups = [] := by
      split
      · exact lookups_factoryTarget declaringType factoryBean
      · rfl
    simp only [factoryCall, Creation.lookups, if_true, List.flatMap_cons, List.flatMap_nil,
      Statement.lookups, Expr.lookups, List.append_nil]
    rw [lookups_reflect (by decide), lookups_reflect (by decide), lookups_reflect (by decide)]
    simp only [Expr.lookupsInAll, receiver, lookups_values, Expr.lookups, List.append_nil,
      List.nil_append]
    rw [lookups_classLiteral, lookups_classLiterals, ← hidden_cons]
  | false =>
    simp only [factoryCall, Creation.lookups, Bool.false_eq_true, if_false, List.flatMap_nil,
      List.nil_append]
    rw [lookups_call_values, lookups_factoryTarget]

/-- A creation looks up nothing that the head of the registration does not look up. The type of the
definition is spelled out in any case. -/
theorem mem_lookups_creation (accessible : w.typeAccessible = site.canName w.definition.type.name)
    {name : String} (h : name ∈ (site.creation w).lookups) :
    name ∈ site.hidden (w.definition.type.name :: w.instantiation.literalTypes) := by
  unfold creation at h
  cases hw : w.instantiation with
  | construction parameterTypes arguments reflective =>
    rw [hw] at h
    simp only [lookups_construction _ _ _ accessible] at h
    split at h
    · exact h
    · exact absurd h List.not_mem_nil
  | factoryMethod declaringType factoryBean method parameterTypes arguments reflective =>
    rw [hw] at h
    simp only [lookups_factoryCall] at h
    split at h
    · rw [hidden_cons]
      exact List.mem_append_right _ h
    · exact absurd h List.not_mem_nil
  | supplier expression =>
    rw [hw] at h
    exact absurd h List.not_mem_nil

theorem lookups_receiver (declaringType : String) : (receiver w declaringType).lookups = [] := by
  unfold receiver
  split <;> rfl

/-- What an injection looks up, where it has a variable exactly if it works by reflection. Without
reflection, both sides are empty. -/
theorem lookups_completion {injection : Injection} {var : Option String}
    (h : var.isSome = injection.wantedName?.isSome) :
    (site.completion w injection var).lookups = site.hidden injection.literalTypes := by
  cases injection with
  | field declaringType name type value reflective =>
    cases reflective <;> cases var <;> cases h
    · simp only [completion, assignField, Completion.lookups, List.flatMap_cons, List.flatMap_nil,
        Statement.lookups, Expr.lookups, lookups_receiver, lookups_value]
      rfl
    · simp only [completion, assignField, Completion.lookups, List.flatMap_cons, List.flatMap_nil,
        Statement.lookups, Injection.literalTypes, if_true]
      rw [lookups_reflect (by decide), lookups_reflect (by decide), lookups_reflect (by decide)]
      simp [Expr.lookupsInAll, lookups_classLiteral, lookups_value, Expr.lookups, target]
  | method declaringType name parameterTypes arguments reflective =>
    cases reflective <;> cases var <;> cases h
    · simp only [completion, callSetter, Completion.lookups, List.flatMap_cons, List.flatMap_nil,
        Statement.lookups, lookups_call_values, lookups_receiver]
      rfl
    · simp only [completion, callSetter, Completion.lookups, List.flatMap_cons, List.flatMap_nil,
        Statement.lookups, Injection.literalTypes, if_true]
      rw [lookups_reflect (by decide), lookups_reflect (by decide), lookups_reflect (by decide),
        hidden_cons]
      simp [Expr.lookupsInAll, lookups_classLiteral, lookups_classLiterals, lookups_values,
        Expr.lookups, target]

theorem lookups_completions (taken : List String) (injections : List Injection) :
    (injections.zipWith (site.completion w) (Injection.variableNames taken injections)).flatMap
        Completion.lookups =
      site.hidden (injections.flatMap Injection.literalTypes) := by
  have named := Injection.forall₂_variableNames taken injections
  generalize Injection.variableNames taken injections = vars at named
  induction named with
  | nil => rfl
  | cons named _ ih =>
    rw [List.zipWith_cons_cons, List.flatMap_cons, ih, lookups_completion named, List.flatMap_cons,
      hidden, hidden, hidden, List.filter_append]

/-! ### Registrations -/

theorem lookups_customizations (d : Definition) :
    (customizations d).flatMap Expr.lookups = [] := by
  rw [customizations, List.flatMap_append, List.flatMap_append, List.append_eq_nil_iff,
    List.append_eq_nil_iff]
  refine ⟨⟨?_, ?_⟩, ?_⟩ <;> split <;> rfl

theorem lookups_supplierBlock (site : Site) (w : Wiring) :
    (site.supplierBlock w).flatMap Statement.lookups =
      (site.creation w).lookups ++ (site.completions w).flatMap Completion.lookups := by
  have completions : ((site.completions w).flatMap Completion.statements).flatMap
      Statement.lookups = (site.completions w).flatMap Completion.lookups :=
    List.flatMap_assoc
  rw [supplierBlock, List.flatMap_append, List.flatMap_append, List.flatMap_cons, completions,
    Creation.lookups, Statement.lookups]
  simp [Statement.lookups, target, Expr.lookups]

/-- The supplier looks up what the creation and the completion of the instance look up. It is so
whether or not the supplier is a block. -/
theorem mem_lookups_supplier {name : String} :
    name ∈ (site.supplier w).lookups ↔ name ∈ (site.creation w).lookups ∨
      name ∈ site.hidden (w.injections.flatMap Injection.literalTypes) := by
  simp only [supplier]
  split
  · next bare =>
    simp only [Bool.and_eq_true, List.isEmpty_iff] at bare
    have expression : (site.creation w).lookups = (site.creation w).instanceExpr.lookups := by
      rw [Creation.lookups, bare.2]
      rfl
    rw [bare.1, List.flatMap_nil, expression, hidden, List.filter_nil,
      or_iff_left List.not_mem_nil]
    split
    · next constructor => rw [constructor, Supplier.lookups]
    · rfl
  · rw [Supplier.lookups, lookups_supplierBlock, List.mem_append, completions,
      lookups_completions]

/-- A registration looks up the types that the generated code cannot name, of those whose class
objects it spells out, and nothing else. -/
theorem mem_lookups_registration
    (accessible : w.typeAccessible = site.canName w.definition.type.name) {name : String} :
    name ∈ (site.registration w).lookups ↔
      name ∈ w.literalTypes ∧ site.canName name = false := by
  have literals : name ∈ site.hidden w.literalTypes ↔
      name ∈ (site.head w).lookups ∨
        name ∈ site.hidden (w.injections.flatMap Injection.literalTypes) := by
    rw [lookups_head accessible, Wiring.literalTypes, hidden, List.filter_append, List.mem_append,
      ← hidden, ← hidden]
  rw [← mem_hidden, literals, Registration.lookups, registration, lookups_customizations,
    List.append_nil, List.mem_append, mem_lookups_supplier]
  have covered : name ∈ (site.creation w).lookups → name ∈ (site.head w).lookups := by
    rw [lookups_head accessible]
    exact mem_lookups_creation accessible
  constructor
  · rintro (head | creation | completion)
    · exact .inl head
    · exact .inl (covered creation)
    · exact .inr completion
  · rintro (head | completion)
    · exact .inl head
    · exact .inr (.inr completion)

end Site

end StaticWiring
