import StaticWiring.ClassForest.Rendering
import StaticWiring.Proofs.Registration.Lookups
import StaticWiring.Proofs.Wiring.Resolution

/-!
# Types that a registration mentions

Most of the types that the code of a registration mentions are mentioned only if the generated code
can name them: where it cannot, a class is looked up by its name, an instance is taken as it is, and
a member is used by reflection. Beside the types of the framework, three kinds of types are
mentioned whether or not they can be named: the type arguments of a definition, the type whose
static factory method is called, and the enums whose constants are injected.

## Main definitions

* `Framework.types` — the types that the code mentions on its own account.
* `Wiring.untestedTypes` — the types of a wiring that are mentioned in any case.
* `Site.Allows` — a type can be named, or belongs to the framework.

## Main results

* `Assembly.Wires.allows_or_untested` — the types that a registration mentions.
-/

namespace StaticWiring

open Java

/-! ### Types that are mentioned in any case -/

/-- The types that the generated code mentions on its own account, and what stands for a type that
it cannot name. -/
def Framework.types : List String :=
  [initializer, applicationContext, registrar, beanDefinition, reflectionUtils, classUtils,
    beanUtils, "java.lang.reflect.Method", "java.lang.reflect.Field", "java.util.List",
    "java.util.Set", "Object"]

/-- The enum whose constant a value is. Other values have none. -/
def Value.enumTypes : Value → List String
  | literal (.enumConstant type _) => [type]
  | _ => []

/-- The values of an instantiation. An instance that is supplied has none. -/
def Instantiation.values : Instantiation → List Value
  | construction _ arguments _ => arguments
  | factoryMethod _ _ _ _ arguments _ => arguments
  | supplier _ => []

/-- The type whose static factory method is called. Other methods are called on an instance. -/
def Instantiation.staticOwners : Instantiation → List String
  | factoryMethod declaringType none _ _ _ _ => [declaringType]
  | _ => []

/-- The values of an injection. A field has one, and a setter may have several. -/
def Injection.values : Injection → List Value
  | field _ _ _ value _ => [value]
  | method _ _ _ arguments _ => arguments

/-- The types of a wiring that its registration mentions whether or not they can be named. They are
the type arguments, the declaring types of static methods and the enums of constants. -/
def Wiring.untestedTypes (w : Wiring) : List String :=
  (if w.typeAccessible then mentionedByAll w.definition.type.arguments else []) ++
    w.instantiation.staticOwners ++ w.instantiation.values.flatMap Value.enumTypes ++
    (w.injections.flatMap Injection.values).flatMap Value.enumTypes

/-- The generated code can name the type, or mentions it on its own account. The framework's own
types can always be named. -/
def Site.Allows (site : Site) (type : String) : Prop :=
  site.canName type = true ∨ type ∈ Framework.types

namespace Site

variable {site : Site} {w : Wiring} {name : String}

theorem allows_of_mem_framework (h : name ∈ Framework.types) : site.Allows name :=
  .inr h

theorem allows_of_mem_singleton {type : String} (framework : type ∈ Framework.types)
    (h : name ∈ [type]) : site.Allows name := by
  rw [List.mem_singleton.1 h]
  exact allows_of_mem_framework framework

theorem mentionedInAll_eq_flatMap (es : List Expr) :
    Expr.mentionedInAll es = es.flatMap Expr.mentioned := by
  induction es with
  | nil => rfl
  | cons e es ih => rw [Expr.mentionedInAll, ih, List.flatMap_cons]

/-! ### Class objects and values -/

theorem allows_of_mem_classLiteral {type : String}
    (h : name ∈ (classLiteral type (site.canName type)).mentioned) : site.Allows name := by
  cases named : site.canName type with
  | true =>
    rw [named] at h
    obtain rfl : name = type := List.mem_singleton.1 h
    exact .inl named
  | false =>
    rw [named] at h
    exact allows_of_mem_singleton (by decide) h

theorem allows_of_mem_classLiterals {types : List TypeRef}
    (h : name ∈ Expr.mentionedInAll (site.classLiterals types)) : site.Allows name := by
  rw [mentionedInAll_eq_flatMap] at h
  obtain ⟨e, he, h⟩ := List.mem_flatMap.1 h
  obtain ⟨t, -, rfl⟩ := List.mem_map.1 he
  exact allows_of_mem_classLiteral h

theorem allows_of_mem_reference {bean : String} {type : TypeRef}
    (h : name ∈ (site.reference bean type).mentioned) : site.Allows name := by
  unfold reference at h
  split at h
  · exact absurd h List.not_mem_nil
  · next named =>
    obtain rfl : name = type.name := List.mem_singleton.1 h
    simp only [Bool.or_eq_true, Bool.not_eq_true', not_or, Bool.not_eq_false] at named
    exact .inl named.2

/-- A value mentions an enum whose constant it is, and otherwise what can be named. Values refer to
definitions by their names and to no other types. -/
theorem allows_of_mem_value {v : Value} (h : name ∈ (site.value v).mentioned) :
    site.Allows name ∨ name ∈ v.enumTypes := by
  cases v with
  | bean bean type => exact .inl (allows_of_mem_reference h)
  | beans kind element names =>
    refine .inl ?_
    rw [value, Expr.mentioned, mentionedInAll_eq_flatMap] at h
    rcases List.mem_append.1 h with h | h
    · exact allows_of_mem_singleton (by cases kind <;> decide) h
    · obtain ⟨e, he, h⟩ := List.mem_flatMap.1 h
      obtain ⟨bean, -, rfl⟩ := List.mem_map.1 he
      exact allows_of_mem_reference h
  | container object => cases object <;> exact absurd h List.not_mem_nil
  | literal l =>
    cases l with
    | enumConstant type constant => exact .inr h
    | _ => exact absurd h List.not_mem_nil
  | null => exact absurd h List.not_mem_nil

theorem allows_of_mem_values {vs : List Value}
    (h : name ∈ Expr.mentionedInAll (vs.map site.value)) :
    site.Allows name ∨ name ∈ vs.flatMap Value.enumTypes := by
  rw [mentionedInAll_eq_flatMap] at h
  obtain ⟨e, he, h⟩ := List.mem_flatMap.1 h
  obtain ⟨v, hv, rfl⟩ := List.mem_map.1 he
  refine (allows_of_mem_value h).imp_right fun enum => ?_
  exact List.mem_flatMap.2 ⟨v, hv, enum⟩

theorem mentionedBy_eq (t : TypeRef) : mentionedBy t = t.name :: mentionedByAll t.arguments := by
  cases t with
  | mk name arguments => rw [mentionedBy]

/-! ### The parts of a registration -/

theorem allows_of_mem_head (accessible : w.typeAccessible = site.canName w.definition.type.name)
    (h : name ∈ (site.head w).mentioned) : site.Allows name := by
  have start (h : name ∈ (Expr.call (.typeName Framework.registrar) "of"
      [.string w.definition.name,
        classLiteral w.definition.type.name w.typeAccessible]).mentioned) : site.Allows name := by
    rw [accessible] at h
    simp only [Expr.mentioned, Expr.mentionedInAll, List.append_nil, List.nil_append] at h
    rcases List.mem_append.1 h with h | h
    · exact allows_of_mem_singleton (by decide) h
    · exact allows_of_mem_classLiteral h
  unfold head at h
  cases hw : w.instantiation with
  | construction parameterTypes arguments reflective =>
    simp only [hw] at h
    split at h
    · exact start h
    · rw [Expr.mentioned] at h
      exact (List.mem_append.1 h).elim start allows_of_mem_classLiterals
  | factoryMethod declaringType factoryBean method parameterTypes arguments reflective =>
    simp only [hw] at h
    rw [Expr.mentioned, Expr.mentionedInAll, Expr.mentionedInAll] at h
    rcases List.mem_append.1 h with h | h
    · exact start h
    · rcases List.mem_append.1 h with h | h
      · exact allows_of_mem_classLiteral h
      · exact allows_of_mem_classLiterals h
  | supplier expression =>
    simp only [hw] at h
    exact start h

theorem allows_of_mem_customizations {d : Definition}
    (h : name ∈ Expr.mentionedInAll (customizations d)) : site.Allows name := by
  rw [mentionedInAll_eq_flatMap] at h
  obtain ⟨e, he, h⟩ := List.mem_flatMap.1 h
  rw [customizations, List.mem_append, List.mem_append] at he
  rcases he with (he | he) | he <;> split at he
  · rw [List.mem_singleton.1 he] at h
    exact absurd h List.not_mem_nil
  · exact absurd he List.not_mem_nil
  · rw [List.mem_singleton.1 he] at h
    exact absurd h List.not_mem_nil
  · exact absurd he List.not_mem_nil
  · rw [List.mem_singleton.1 he] at h
    exact allows_of_mem_singleton (by decide) h
  · exact absurd he List.not_mem_nil

/-- The variable of an instance mentions the type arguments in any case. The type itself is only
mentioned if it can be named. -/
theorem allows_of_mem_instanceType
    (accessible : w.typeAccessible = site.canName w.definition.type.name)
    (h : name ∈ mentionedBy (instanceType w)) : site.Allows name ∨ name ∈ w.untestedTypes := by
  unfold instanceType at h
  unfold Wiring.untestedTypes
  split at h
  · next named =>
    rw [mentionedBy_eq] at h
    rcases List.mem_cons.1 h with rfl | h
    · exact .inl (.inl (accessible ▸ named))
    · rw [if_pos named]
      exact .inr (List.mem_append_left _ (List.mem_append_left _ (List.mem_append_left _ h)))
  · exact .inl (allows_of_mem_singleton (by decide) h)

/-- The call of a constructor mentions its class directly only if it is not called by reflection.
The condition is the one under which the wiring was made. -/
theorem allows_of_mem_construction
    (accessible : w.typeAccessible = site.canName w.definition.type.name)
    {parameterTypes : List TypeRef} {arguments : List Value} {reflective : Bool}
    (direct : reflective = false → site.canName w.definition.type.name = true)
    (h : name ∈ (site.construction w parameterTypes arguments reflective).mentioned) :
    site.Allows name ∨ name ∈ arguments.flatMap Value.enumTypes := by
  cases reflective with
  | true =>
    simp only [construction, if_true, Expr.mentionedInAll, List.mem_append, accessible] at h
    rcases h with (values | framework) | literal | literals
    · exact allows_of_mem_values values
    · refine .inl (allows_of_mem_framework ?_)
      rcases List.mem_pair.1 framework with rfl | rfl <;> decide
    · exact .inl (allows_of_mem_classLiteral literal)
    · exact .inl (allows_of_mem_classLiterals literals)
  | false =>
    simp only [construction, Bool.false_eq_true, if_false, List.mem_append] at h
    rcases h with values | own
    · exact allows_of_mem_values values
    · rw [List.mem_singleton.1 own]
      exact .inl (.inl (direct rfl))

/-- The call of a factory method mentions the declaring type of a static one in any case. An
instance is otherwise cast to the type, if that can be named. -/
theorem allows_of_mem_factoryCall {declaringType method : String} {factoryBean : Option String}
    {parameterTypes : List TypeRef} {arguments : List Value} {reflective : Bool}
    (h : name ∈ (site.factoryCall w declaringType factoryBean method parameterTypes arguments
      reflective).mentioned) :
    site.Allows name ∨
      name ∈ (Instantiation.factoryMethod declaringType factoryBean method parameterTypes arguments
        reflective).staticOwners ∨ name ∈ arguments.flatMap Value.enumTypes := by
  have before (h : name ∈ Expr.mentionedInAll (arguments.map site.value) ++
      site.mentionedByTarget declaringType factoryBean) :
      site.Allows name ∨
        name ∈ (Instantiation.factoryMethod declaringType factoryBean method parameterTypes
          arguments reflective).staticOwners ∨ name ∈ arguments.flatMap Value.enumTypes := by
    rcases List.mem_append.1 h with values | target
    · exact (allows_of_mem_values values).imp_right .inr
    · cases factoryBean with
      | none => exact .inr (.inl target)
      | some bean => exact .inl (allows_of_mem_classLiteral target)
  cases reflective with
  | true =>
    simp only [factoryCall, if_true] at h
    rw [List.mem_append, List.mem_append, List.mem_append, List.mem_append] at h
    rcases h with (((h | framework) | literal) | literals) | framework
    · exact before h
    · exact .inl (allows_of_mem_singleton (by decide) framework)
    · exact .inl (allows_of_mem_classLiteral literal)
    · exact .inl (allows_of_mem_classLiterals literals)
    · exact .inl (allows_of_mem_singleton (by decide) framework)
  | false => exact before h

end Site

/-! ### Registrations -/

namespace Assembly

variable {a : Assembly} {d : Definition} {w : Wiring} {name : String}

/-- The creation of an instance mentions an enum whose constant is injected, the type whose static
factory method is called, and otherwise what can be named. -/
theorem Wires.allows_of_mem_creation (h : a.Wires d w)
    (mentioned : name ∈ (a.site.creation w).mentioned) :
    a.site.Allows name ∨ name ∈ w.instantiation.staticOwners ∨
      name ∈ w.instantiation.values.flatMap Value.enumTypes := by
  have accessible : w.typeAccessible = a.site.canName w.definition.type.name := by
    rw [h.typeAccessible_eq, h.definition_eq]
  have obtains := h.obtains
  rw [← h.definition_eq] at obtains
  unfold Site.creation at mentioned
  cases hw : w.instantiation with
  | construction parameterTypes arguments reflective =>
    rw [hw] at obtains mentioned
    refine (Site.allows_of_mem_construction accessible (fun direct => ?_) mentioned).imp_right .inr
    rw [direct] at obtains
    exact obtains.canName_direct _ rfl
  | factoryMethod declaringType factoryBean method parameterTypes arguments reflective =>
    rw [hw] at mentioned
    exact Site.allows_of_mem_factoryCall mentioned
  | supplier expression =>
    rw [hw] at mentioned
    exact absurd mentioned List.not_mem_nil

/-- A value is assigned, or passed to a setter, directly only if the type of the member can be
named. -/
theorem Completes.allows_of_mem_receiver {injection : Injection} (h : a.Completes injection)
    {declaringType : String} (direct : injection.directOwner? = some declaringType)
    (mentioned : name ∈ (Site.receiver w declaringType).mentioned) : a.site.Allows name := by
  unfold Site.receiver at mentioned
  split at mentioned
  · exact absurd mentioned List.not_mem_nil
  · obtain rfl : name = declaringType := List.mem_singleton.1 mentioned
    exact .inl (h.canName_direct name direct)

theorem Completes.allows_of_mem_completion {injection : Injection} (h : a.Completes injection)
    {var : Option String} (named : var.isSome = injection.wantedName?.isSome)
    (mentioned : name ∈ (a.site.completion w injection var).mentioned) :
    a.site.Allows name ∨ name ∈ injection.values.flatMap Value.enumTypes := by
  cases injection with
  | field declaringType field type value reflective =>
    have own (mentioned : name ∈ (a.site.value value).mentioned) :
        a.site.Allows name ∨ name ∈ [value].flatMap Value.enumTypes := by
      refine (Site.allows_of_mem_value mentioned).imp_right fun enum => ?_
      exact List.mem_flatMap.2 ⟨value, List.mem_singleton_self value, enum⟩
    cases reflective <;> cases var <;> cases named
    · simp only [Site.completion, Site.assignField, List.mem_append] at mentioned
      rcases mentioned with value | receiver
      · exact own value
      · exact .inl (h.allows_of_mem_receiver rfl receiver)
    · simp only [Site.completion, Site.assignField, List.mem_append] at mentioned
      rcases mentioned with ((value | framework) | literal) | framework
      · exact own value
      · exact .inl (Site.allows_of_mem_singleton (by decide) framework)
      · exact .inl (Site.allows_of_mem_classLiteral literal)
      · exact .inl (Site.allows_of_mem_singleton (by decide) framework)
  | method declaringType method parameterTypes arguments reflective =>
    cases reflective <;> cases var <;> cases named
    · simp only [Site.completion, Site.callSetter, List.mem_append] at mentioned
      rcases mentioned with values | receiver
      · exact Site.allows_of_mem_values values
      · exact .inl (h.allows_of_mem_receiver rfl receiver)
    · simp only [Site.completion, Site.callSetter, List.mem_append] at mentioned
      rcases mentioned with (((values | framework) | literal) | literals) | framework
      · exact Site.allows_of_mem_values values
      · exact .inl (Site.allows_of_mem_singleton (by decide) framework)
      · exact .inl (Site.allows_of_mem_classLiteral literal)
      · exact .inl (Site.allows_of_mem_classLiterals literals)
      · exact .inl (Site.allows_of_mem_singleton (by decide) framework)

/-- The code of an injection, with a variable exactly if it works by reflection. It spares later
proofs the choice of variables. -/
theorem exists_of_mem_completions {site : Site} {completion : Completion}
    (h : completion ∈ site.completions w) :
    ∃ injection ∈ w.injections, ∃ var : Option String,
      var.isSome = injection.wantedName?.isSome ∧ completion = site.completion w injection var := by
  simp only [Site.completions] at h
  have named := Injection.forall₂_variableNames
    ((site.creation w).statements.filterMap Statement.declared?) w.injections
  generalize Injection.variableNames _ w.injections = vars at named h
  generalize w.injections = injections at named h ⊢
  induction named with
  | nil => exact absurd h List.not_mem_nil
  | @cons injection var injections vars first _ ih =>
    rw [List.zipWith_cons_cons] at h
    rcases List.mem_cons.1 h with rfl | h
    · exact ⟨injection, List.mem_cons_self, var, first, rfl⟩
    · obtain ⟨i, hi, found⟩ := ih h
      exact ⟨i, List.mem_cons_of_mem _ hi, found⟩

/-- A type that a registration mentions can be named or belongs to the framework, unless it is one
of those that are mentioned in any case. -/
theorem Wires.allows_or_untested (h : a.Wires d w)
    (mentioned : name ∈ (a.site.registration w).mentioned) :
    a.site.Allows name ∨ name ∈ w.untestedTypes := by
  have accessible : w.typeAccessible = a.site.canName w.definition.type.name := by
    rw [h.typeAccessible_eq, h.definition_eq]
  simp only [Site.registration, List.mem_append] at mentioned
  rcases mentioned with (((head | customizations) | type) | creation) | completion
  · exact .inl (Site.allows_of_mem_head accessible head)
  · exact .inl (Site.allows_of_mem_customizations customizations)
  · exact Site.allows_of_mem_instanceType accessible type
  · refine (h.allows_of_mem_creation creation).imp_right fun untested => ?_
    simp only [Wiring.untestedTypes, List.mem_append]
    rcases untested with owner | enum
    · exact .inl (.inl (.inr owner))
    · exact .inl (.inr enum)
  · obtain ⟨code, hcode, completion⟩ := List.mem_flatMap.1 completion
    obtain ⟨injection, hi, var, named, rfl⟩ := exists_of_mem_completions hcode
    refine ((h.completes injection hi).allows_of_mem_completion named completion).imp_right
      fun enum => ?_
    obtain ⟨value, hvalue, enum⟩ := List.mem_flatMap.1 enum
    refine List.mem_append_right _ (List.mem_flatMap.2 ⟨value, ?_, enum⟩)
    exact List.mem_flatMap.2 ⟨injection, hi, hvalue⟩

end Assembly

end StaticWiring
