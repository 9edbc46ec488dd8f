import Mathlib.Data.List.Nodup
import Mathlib.Data.List.ReduceOption
import StaticWiring.Proofs.Java.Variables
import StaticWiring.Proofs.Registration.Mentions
import StaticWiring.Proofs.Text.Numbered

/-!
# The local variables of a supplier

The block that obtains and completes an instance declares local variables: one for the factory
method if it is called by reflection, `bean` for the instance, and one for each member that is
injected by reflection. The last ones are named for their members, and numbered where that name is
taken, by a search that a longer list of names than those that are taken must end. All names but
`bean` end with a digit or with the last letter of `Field` and `Method`, so that none of them is the
instance or the context, which stands outside the block.

The statements of an injection use no variable but the instance, the context and their own one.
Hence, as the names are distinct, what an injection uses was declared for this very injection.

## Main definitions

* `localName` — the names that are tried for a variable.
* `Site.declaration?` — the statement that looks up the member of an injection.
* `Site.UsesOwn` — the statements of an injection with its variable.
* `Creation.OpensBlock`, `Site.opening` — what stands in front of all injections.

## Main results

* `exists_freshName` — the search for a name that is not taken ends with the first such name.
* `Site.usesOwn_completion` — an injection uses its own variable.
* `Site.locals_supplierBlock` — the variables of a block.
* `Site.locals_distinct` — they are distinct, and each injection uses the one declared for it.
-/

namespace StaticWiring

open Java

/-! ### Names that are not taken -/

/-- The names for a local variable, in the order in which they are tried. Numbers are only put
behind it once the name itself is taken. -/
def localName (base : String) (n : Nat) : String :=
  if n = 0 then base else base ++ toString n

theorem localName_inj {base : String} {m n : Nat} (h : localName base m = localName base n) :
    m = n := by
  have shape (n : Nat) : (localName base n).toList =
      base.toList ++ if n = 0 then [] else (toString n).toList := by
    rw [localName]
    split <;> simp
  have same := congrArg String.toList h
  rw [shape, shape] at same
  have numerals := List.append_cancel_left same
  by_cases hm : m = 0 <;> by_cases hn : n = 0
  · rw [hm, hn]
  · rw [if_pos hm, if_neg hn] at numerals
    exact (Text.numeral_ne_nil n numerals.symm).elim
  · rw [if_neg hm, if_pos hn] at numerals
    exact (Text.numeral_ne_nil m numerals).elim
  · rw [if_neg hm, if_neg hn] at numerals
    exact Text.numeral_inj numerals

/-- The search ends with the first name that is not taken. Among so many names, one is not taken. -/
theorem exists_freshName (taken : List String) (base : String) :
    ∃ n ≤ taken.length, freshName taken base = localName base n ∧ localName base n ∉ taken ∧
      ∀ m < n, localName base m ∈ taken := by
  have names : freshName taken base =
      (((List.range (taken.length + 1)).map (localName base)).find?
        (!taken.contains ·)).getD base := rfl
  rw [names, List.find?_map]
  cases found : (List.range (taken.length + 1)).find? ((!taken.contains ·) ∘ localName base) with
  | some n =>
    obtain ⟨free, bound, first⟩ := List.find?_range_eq_some.1 found
    refine ⟨n, Nat.le_of_lt_succ (List.mem_range.1 bound), rfl, by simpa using free,
      fun m lt => by simpa using first m lt⟩
  | none =>
    -- So many distinct names cannot all be taken.
    have all : (List.range (taken.length + 1)).map (localName base) ⊆ taken := by
      intro name member
      obtain ⟨n, bound, rfl⟩ := List.mem_map.1 member
      simpa using List.find?_eq_none.1 found n bound
    have distinct : ((List.range (taken.length + 1)).map (localName base)).Nodup :=
      List.nodup_range.map fun _ _ => localName_inj
    have length := distinct.length_le_of_subset all
    rw [List.length_map, List.length_range] at length
    omega

theorem freshName_not_mem (taken : List String) (base : String) : freshName taken base ∉ taken := by
  obtain ⟨n, -, eq, free, -⟩ := exists_freshName taken base
  exact eq ▸ free

/-- The name ends with a digit or with the last letter of `Field` and `Method`. Neither the context
nor the instance is called like that. -/
def EndsLikeMember (name : String) : Prop :=
  ∃ c, name.toList.getLast? = some c ∧ (c = 'd' ∨ c.isDigit = true)

theorem endsLikeMember_append {tail : String} (h : EndsLikeMember tail) (s : String) :
    EndsLikeMember (s ++ tail) := by
  obtain ⟨c, last, ends⟩ := h
  refine ⟨c, ?_, ends⟩
  rw [String.toList_append, List.getLast?_append, last, Option.some_or]

theorem endsLikeMember_freshName {base : String} (h : EndsLikeMember base) (taken : List String) :
    EndsLikeMember (freshName taken base) := by
  obtain ⟨n, -, eq, -⟩ := exists_freshName taken base
  rw [eq, localName]
  split
  · exact h
  · refine endsLikeMember_append ?_ base
    have last := List.getLast?_eq_some_getLast (Text.numeral_ne_nil n)
    exact ⟨_, last, .inr (Text.isDigit_of_mem_numeral (List.getLast_mem _))⟩

theorem ne_of_endsLikeMember {name : String} (h : EndsLikeMember name) :
    name ≠ "context" ∧ name ≠ "bean" := by
  obtain ⟨c, last, ends⟩ := h
  constructor <;> rintro rfl <;> cases last <;> exact absurd ends (by decide)

theorem Injection.endsLikeMember_of_wantedName? {injection : Injection} {base : String}
    (h : injection.wantedName? = some base) : EndsLikeMember base := by
  have field : EndsLikeMember "Field" := ⟨'d', rfl, .inl rfl⟩
  have method : EndsLikeMember "Method" := ⟨'d', rfl, .inl rfl⟩
  cases injection with
  | field _ name _ _ reflective =>
    obtain ⟨-, same⟩ := Option.ite_none_right_eq_some.1 h
    exact Option.some.inj same ▸ endsLikeMember_append field name
  | method _ name _ _ reflective =>
    obtain ⟨-, same⟩ := Option.ite_none_right_eq_some.1 h
    exact Option.some.inj same ▸ endsLikeMember_append method name

/-- The variables of injections are distinct, none of them is taken, and all of them end like the
names of members. -/
theorem Injection.distinct_variableNames (taken : List String) (injections : List Injection) :
    (variableNames taken injections).reduceOption.Nodup ∧
      ∀ name ∈ (variableNames taken injections).reduceOption,
        name ∉ taken ∧ EndsLikeMember name := by
  induction injections generalizing taken with
  | nil => exact ⟨List.nodup_nil, fun _ member => by cases member⟩
  | cons injection injections ih =>
    rw [variableNames]
    split
    · exact ih taken
    · next base wanted =>
      obtain ⟨distinct, fresh⟩ := ih (freshName taken base :: taken)
      rw [List.reduceOption_cons_of_some]
      refine ⟨List.nodup_cons.2 ⟨fun member => ?_, distinct⟩, fun name member => ?_⟩
      · exact (fresh _ member).1 List.mem_cons_self
      · obtain rfl | member := List.mem_cons.1 member
        · have ends := endsLikeMember_of_wantedName? wanted
          exact ⟨freshName_not_mem taken base, endsLikeMember_freshName ends taken⟩
        · obtain ⟨free, ends⟩ := fresh name member
          exact ⟨fun taken => free (List.mem_cons_of_mem _ taken), ends⟩

/-! ### The variables of a supplier -/

/-- The variables that a supplier declares. Only blocks have statements. -/
def Supplier.locals : Supplier → List String
  | function _ => []
  | expression _ => []
  | block statements => Java.locals statements

namespace Site

variable {site : Site} {w : Wiring} {names : List String} {injection : Injection}
  {var : Option String}

theorem uses_classLiteral (known : "context" ∈ names) (type : String) (isNamed : Bool) :
    (classLiteral type isNamed).uses ⊆ names := by
  unfold classLiteral
  split <;> simp [Expr.uses, Expr.usesInAll, context, known]

theorem usesInAll_classLiterals (known : "context" ∈ names) (types : List TypeRef) :
    Expr.usesInAll (site.classLiterals types) ⊆ names := by
  refine Expr.usesInAll_subset fun e member => ?_
  obtain ⟨type, -, rfl⟩ := List.mem_map.1 member
  exact uses_classLiteral known _ _

theorem uses_reference (known : "context" ∈ names) (name : String) (type : TypeRef) :
    (site.reference name type).uses ⊆ names := by
  unfold reference
  split <;> simp [Expr.uses, Expr.usesInAll, context, known]

/-- A value uses nothing but the context. Definitions are asked for by their names, and not kept in
variables. -/
theorem uses_value (known : "context" ∈ names) (v : Value) : (site.value v).uses ⊆ names := by
  cases v with
  | bean name type => exact uses_reference known name type
  | beans kind element beans =>
    refine List.append_subset.2 ⟨List.nil_subset names, Expr.usesInAll_subset fun e member => ?_⟩
    obtain ⟨name, -, rfl⟩ := List.mem_map.1 member
    exact uses_reference known name element
  | container object => cases object <;> simp [value, Expr.uses, Expr.usesInAll, context, known]
  | literal l => cases l <;> exact List.nil_subset names
  | null => exact List.nil_subset names

theorem usesInAll_values (known : "context" ∈ names) (vs : List Value) :
    Expr.usesInAll (vs.map site.value) ⊆ names := by
  refine Expr.usesInAll_subset fun e member => ?_
  obtain ⟨v, -, rfl⟩ := List.mem_map.1 member
  exact uses_value known v

theorem uses_reflect (method : String) (arguments : List Expr) :
    (reflect method arguments).uses = Expr.usesInAll arguments := rfl

theorem uses_receiver (known : "bean" ∈ names) (w : Wiring) (declaringType : String) :
    (receiver w declaringType).uses ⊆ names := by
  unfold receiver
  split <;> simp [Expr.uses, target, known]

/-! ### The statements of an injection -/

/-- The statement that looks up the member of an injection by reflection. Nothing is looked up where
the member can be used directly. -/
def declaration? (site : Site) (injection : Injection) (name : String) : Option Statement :=
  match injection with
  | .field declaringType member _ _ true =>
    some (.declare (.raw "java.lang.reflect.Field") name
      (reflect "findField" [classLiteral declaringType (site.canName declaringType),
        .string member]))
  | .method declaringType member parameterTypes _ true =>
    some (.declare (.raw "java.lang.reflect.Method") name
      (reflect "findMethod" (classLiteral declaringType (site.canName declaringType) ::
        .string member :: site.classLiterals parameterTypes)))
  | _ => none

/-- The statements of an injection with its variable. -/
inductive UsesOwn (site : Site) (injection : Injection) :
    Option String → List Statement → Prop
  /-- Without reflection, no variable is declared or used. -/
  | direct {statements : List Statement} (plain : injection.wantedName? = none)
    (declares : locals statements = []) (uses : used statements ⊆ ["context", "bean"]) :
    UsesOwn site injection none statements
  /-- By reflection, the variable is declared by the lookup of the member, and each of the further
  statements uses it. -/
  | reflective {name : String} {declaration : Statement} {further : List Statement}
    (declared : site.declaration? injection name = some declaration)
    (initial : declaration.uses ⊆ ["context"]) (declares : locals further = [])
    (uses : ∀ s ∈ further, name ∈ s.uses ∧ s.uses ⊆ ["context", "bean", name]) :
    UsesOwn site injection (some name) (declaration :: further)

theorem declared?_of_declaration? {name : String} {declaration : Statement}
    (h : site.declaration? injection name = some declaration) :
    declaration.declared? = some name := by
  unfold declaration? at h
  split at h <;> cases h <;> rfl

theorem UsesOwn.locals_eq {statements : List Statement}
    (h : site.UsesOwn injection var statements) : locals statements = var.toList := by
  cases h with
  | direct _ declares _ => exact declares
  | reflective declared _ declares _ =>
    rw [locals, List.filterMap_cons_some (declared?_of_declaration? declared)]
    exact congrArg _ declares

theorem UsesOwn.keepsOwn {statements : List Statement}
    (h : site.UsesOwn injection var statements) : KeepsOwn statements := by
  rw [KeepsOwn, h.locals_eq]
  cases h with
  | direct _ _ uses => exact uses
  | reflective _ initial _ uses =>
    refine List.append_subset.2 ⟨fun name member => ?_, ?_⟩
    · exact List.mem_singleton.1 (initial member) ▸ List.mem_cons_self
    · intro name member
      obtain ⟨s, member, used⟩ := List.mem_flatMap.1 member
      exact (uses s member).2 used

/-- An injection uses its own variable. The variable has been chosen before, and is only told here.
-/
theorem usesOwn_completion (named : var.isSome = injection.wantedName?.isSome) :
    site.UsesOwn injection var (site.completion w injection var).statements := by
  cases injection with
  | field declaringType member type value reflective =>
    obtain rfl : reflective = var.isSome := by cases reflective <;> exact named.symm
    cases var with
    | none =>
      refine .direct rfl rfl ?_
      simp [used, Statement.uses, completion, assignField, Expr.uses, uses_receiver, uses_value]
    | some name =>
      refine .reflective rfl ?_ rfl ?_
      · simp [Statement.uses, uses_reflect, Expr.usesInAll, Expr.uses, uses_classLiteral]
      · simp [Statement.uses, uses_reflect, Expr.usesInAll, Expr.uses, target, uses_value]
  | method declaringType member parameterTypes arguments reflective =>
    obtain rfl : reflective = var.isSome := by cases reflective <;> exact named.symm
    cases var with
    | none =>
      refine .direct rfl rfl ?_
      simp [used, Statement.uses, completion, callSetter, Expr.uses, uses_receiver,
        usesInAll_values]
    | some name =>
      refine .reflective rfl ?_ rfl ?_
      · simp [Statement.uses, uses_reflect, Expr.usesInAll, Expr.uses, uses_classLiteral,
          usesInAll_classLiterals]
      · simp [Statement.uses, uses_reflect, Expr.usesInAll, Expr.uses, target, usesInAll_values]

theorem exists_completion (site : Site) {k : Nat} (h : w.injections[k]? = some injection) :
    ∃ var, var.isSome = injection.wantedName?.isSome ∧
      (site.completions w)[k]? = some (site.completion w injection var) := by
  have named := Injection.forall₂_variableNames
    ((site.creation w).statements.filterMap Statement.declared?) w.injections
  obtain ⟨lt, rfl⟩ := List.getElem?_eq_some_iff.1 h
  have lt' := named.length_eq ▸ lt
  refine ⟨_, named.get lt lt', ?_⟩
  rw [completions, List.getElem?_zipWith, List.getElem?_eq_getElem lt, List.getElem?_eq_getElem lt']
  rfl

theorem keepsOwn_completions {completion : Completion} (h : completion ∈ site.completions w) :
    KeepsOwn completion.statements := by
  obtain ⟨injection, -, var, named, rfl⟩ := Assembly.exists_of_mem_completions h
  exact (usesOwn_completion named).keepsOwn

/-- The injections declare the variables that were chosen for them. They do so in the order of the
injections. -/
theorem locals_completions (site : Site) (w : Wiring) :
    locals ((site.completions w).flatMap Completion.statements) =
      (Injection.variableNames (locals (site.creation w).statements)
        w.injections).reduceOption := by
  have named := Injection.forall₂_variableNames (locals (site.creation w).statements) w.injections
  rw [completions, ← locals]
  generalize Injection.variableNames _ w.injections = vars at named ⊢
  generalize w.injections = injections at named
  induction named with
  | nil => rfl
  | @cons injection var injections vars first _ ih =>
    rw [List.zipWith_cons_cons, List.flatMap_cons, locals_append,
      (usesOwn_completion first).locals_eq, ih]
    cases var <;> rfl

/-! ### The block of a supplier -/

end Site

/-- Before the instance is declared, no other variable is than that of the factory method, and
nothing but it and the context is used. -/
structure Creation.OpensBlock (c : Creation) : Prop where
  /-- A factory method may be declared. -/
  locals : locals c.statements = [] ∨ locals c.statements = ["factoryMethod"]
  /-- The statements use the context and what they declare. -/
  statements : used c.statements ⊆ "context" :: Java.locals c.statements
  /-- So does the instance. -/
  instanceExpr : c.instanceExpr.uses ⊆ "context" :: Java.locals c.statements

namespace Site

variable {site : Site} {w : Wiring} {names : List String}

theorem uses_factoryTarget (known : "context" ∈ names) (declaringType : String)
    (factoryBean : Option String) :
    (site.factoryTarget declaringType factoryBean).uses ⊆ names := by
  unfold factoryTarget
  split
  · exact List.nil_subset names
  · split <;> simp [Expr.uses, Expr.usesInAll, context, known]

theorem opensBlock_construction (parameterTypes : List TypeRef) (arguments : List Value)
    (reflective : Bool) :
    (site.construction w parameterTypes arguments reflective).OpensBlock := by
  cases reflective with
  | true =>
    refine ⟨.inl rfl, List.nil_subset _, ?_⟩
    simp [construction, Expr.uses, Expr.usesInAll, uses_reflect, uses_classLiteral,
      usesInAll_classLiterals, usesInAll_values]
  | false =>
    refine ⟨.inl rfl, List.nil_subset _, ?_⟩
    simp only [construction, Bool.false_eq_true, if_false]
    split
    · exact List.nil_subset _
    · exact usesInAll_values List.mem_cons_self arguments

theorem opensBlock_factoryCall (declaringType : String) (factoryBean : Option String)
    (method : String) (parameterTypes : List TypeRef) (arguments : List Value)
    (reflective : Bool) :
    (site.factoryCall w declaringType factoryBean method parameterTypes arguments
      reflective).OpensBlock := by
  cases reflective with
  | true =>
    have declared : locals (site.factoryCall w declaringType factoryBean method parameterTypes
        arguments true).statements = ["factoryMethod"] := rfl
    refine ⟨.inr declared, ?_, ?_⟩ <;> rw [declared]
    · simp [used, factoryCall, Statement.uses, uses_reflect, Expr.usesInAll, Expr.uses,
        uses_classLiteral, usesInAll_classLiterals, factoryVariable]
    · have receiver : (if factoryBean.isSome then site.factoryTarget declaringType factoryBean
          else Expr.code "null").uses ⊆ ["context", "factoryMethod"] := by
        split
        · exact uses_factoryTarget List.mem_cons_self declaringType factoryBean
        · exact List.nil_subset _
      simp [factoryCall, uses_reflect, Expr.usesInAll, Expr.uses, receiver, usesInAll_values,
        factoryVariable]
  | false =>
    refine ⟨.inl rfl, List.nil_subset _, ?_⟩
    simp [factoryCall, Expr.uses, uses_factoryTarget, usesInAll_values]

theorem opensBlock_creation (site : Site) (w : Wiring) : (site.creation w).OpensBlock := by
  unfold creation
  split
  · exact opensBlock_construction _ _ _
  · exact opensBlock_factoryCall _ _ _ _ _ _
  · exact ⟨.inl rfl, List.nil_subset _, List.nil_subset _⟩

/-- The statements up to the declaration of the instance. The injections follow, and the block ends
with the instance. -/
def opening (site : Site) (w : Wiring) : List Statement :=
  (site.creation w).statements ++
    [.declare (instanceType w) "bean" (site.creation w).instanceExpr]

theorem locals_opening (site : Site) (w : Wiring) :
    locals (site.opening w) = locals (site.creation w).statements ++ ["bean"] :=
  locals_append

theorem keepsOwn_opening (site : Site) (w : Wiring) : KeepsOwn (site.opening w) := by
  have opens := opensBlock_creation site w
  have known : "context" :: locals (site.creation w).statements ⊆
      "context" :: "bean" :: locals (site.opening w) := by
    rw [locals_opening]
    grind
  rw [KeepsOwn, opening, used_append]
  refine List.append_subset.2 ⟨List.Subset.trans opens.statements known, ?_⟩
  rw [used, List.flatMap_singleton]
  exact List.Subset.trans opens.instanceExpr known

theorem supplierBlock_eq (site : Site) (w : Wiring) :
    site.supplierBlock w =
      site.opening w ++ (site.completions w).flatMap Completion.statements ++ [.give target] := by
  simp [supplierBlock, opening]

/-- A block declares the variable of a factory method if there is one, the instance, and the
variables of the injections. They stand in this order. -/
theorem locals_supplierBlock (site : Site) (w : Wiring) :
    locals (site.supplierBlock w) =
      locals (site.creation w).statements ++ "bean" ::
        (Injection.variableNames (locals (site.creation w).statements)
          w.injections).reduceOption := by
  rw [supplierBlock_eq, locals_append, locals_append, locals_opening, locals_completions]
  simp [locals, Statement.declared?]

theorem distinct_supplierBlock (site : Site) (w : Wiring) :
    (locals (site.supplierBlock w)).Nodup ∧ "context" ∉ locals (site.supplierBlock w) := by
  obtain ⟨distinct, fresh⟩ :=
    Injection.distinct_variableNames (locals (site.creation w).statements) w.injections
  have names := (opensBlock_creation site w).locals
  rw [locals_supplierBlock]
  generalize (Injection.variableNames _ w.injections).reduceOption = vars at distinct fresh
  have notBean : "bean" ∉ vars := fun member => (ne_of_endsLikeMember (fresh _ member).2).2 rfl
  have notContext : "context" ∉ vars := fun member =>
    (ne_of_endsLikeMember (fresh _ member).2).1 rfl
  obtain none | one := names
  · rw [none]
    exact ⟨List.nodup_cons.2 ⟨notBean, distinct⟩, by simp [notContext]⟩
  · rw [one] at fresh ⊢
    have notFactory : "factoryMethod" ∉ vars := fun member =>
      (fresh _ member).1 (List.mem_singleton_self _)
    refine ⟨List.nodup_cons.2 ⟨?_, List.nodup_cons.2 ⟨notBean, distinct⟩⟩, ?_⟩
    · simp [notFactory]
    · simp [notContext]

theorem supplier_cases (site : Site) (w : Wiring) :
    (site.supplier w).locals = [] ∧ w.injections = [] ∨
      site.supplier w = .block (site.supplierBlock w) := by
  simp only [supplier]
  split
  · next empty =>
    obtain ⟨none, -⟩ := (Bool.and_eq_true _ _).mp empty
    refine .inl ⟨?_, List.isEmpty_iff.1 none⟩
    split <;> rfl
  · exact .inr rfl

/-- The statements of an injection stand between others, which keep to their own variables. What
stands before it declares the instance. -/
theorem exists_split_supplierBlock {k : Nat} {completion : Completion}
    (here : (site.completions w)[k]? = some completion) :
    ∃ before after, site.supplierBlock w = before ++ completion.statements ++ after ∧
      KeepsOwn (before ++ after) ∧ "bean" ∈ locals before := by
  obtain ⟨lt, found⟩ := List.getElem?_eq_some_iff.1 here
  have split := List.take_append_drop k (site.completions w)
  rw [List.drop_eq_getElem_cons lt, found] at split
  have own (part : List Completion) (sub : part ⊆ site.completions w) :
      KeepsOwn (part.flatMap Completion.statements) :=
    keepsOwn_flatMap fun _ member => keepsOwn_completions (sub member)
  refine ⟨site.opening w ++ ((site.completions w).take k).flatMap Completion.statements,
    ((site.completions w).drop (k + 1)).flatMap Completion.statements ++ [.give target],
    ?_, ?_, ?_⟩
  · have parts : (site.completions w).flatMap Completion.statements =
        ((site.completions w).take k).flatMap Completion.statements ++
          (completion.statements ++
            ((site.completions w).drop (k + 1)).flatMap Completion.statements) := by
      rw [← List.flatMap_cons, ← List.flatMap_append, split]
    rw [supplierBlock_eq, parts]
    simp only [List.append_assoc]
  · have last : KeepsOwn [Statement.give target] := by
      simp [KeepsOwn, used, Statement.uses, Expr.uses, target]
    exact ((keepsOwn_opening site w).append (own _ (List.take_subset k _))).append
      ((own _ (List.drop_subset (k + 1) _)).append last)
  · rw [locals_append, locals_opening]
    simp

/-- The local variables of a supplier are distinct, and none of them is the context. The statements
of an injection are a part of the block, and use no variable but the context, the instance and, if
the injection works by reflection, the one that their first statement declares with the lookup of
the member. No other part of the block declares or uses that variable. -/
theorem locals_distinct (site : Site) (w : Wiring) :
    (site.supplier w).locals.Nodup ∧ "context" ∉ (site.supplier w).locals ∧
    ∀ (k : Nat) (injection : Injection), w.injections[k]? = some injection →
      ∃ before statements after var,
        site.supplier w = .block (before ++ statements ++ after) ∧
        (site.completions w)[k]?.map Completion.statements = some statements ∧
        site.UsesOwn injection var statements ∧
        ∀ name, var = some name →
          name ∉ locals (before ++ after) ∧ name ∉ used (before ++ after) := by
  obtain ⟨distinct, notContext⟩ := distinct_supplierBlock site w
  obtain ⟨none, empty⟩ | block := supplier_cases site w
  · rw [none]
    refine ⟨List.nodup_nil, List.not_mem_nil, ?_⟩
    intro k injection found
    simp [empty] at found
  · rw [block]
    refine ⟨distinct, notContext, ?_⟩
    intro k injection found
    obtain ⟨var, named, here⟩ := exists_completion site found
    have own : site.UsesOwn injection var (site.completion w injection var).statements :=
      usesOwn_completion named
    obtain ⟨before, after, split, keepsOwn, opened⟩ := exists_split_supplierBlock here
    rw [split] at distinct notContext
    refine ⟨before, _, after, var, congrArg _ split, by rw [here]; rfl, own, ?_⟩
    rintro name rfl
    have declared : name ∈ locals (site.completion w injection (some name)).statements := by
      rw [own.locals_eq]
      exact List.mem_singleton_self name
    have other := not_mem_locals_of_distinct distinct declared
    -- The context is a parameter, and the instance is declared before.
    have ne : name ≠ "context" ∧ name ≠ "bean" := by
      rw [locals_append] at other
      rw [locals_append, locals_append] at notContext
      constructor <;> rintro rfl
      · exact notContext (List.mem_append_left _ (List.mem_append_right _ declared))
      · exact other (List.mem_append_left _ opened)
    exact ⟨other, keepsOwn.not_mem_used ne.1 ne.2 other⟩

end Site

/-! ### Members of one name -/

namespace Sample

/-- An application without descriptions of its types. Nothing can be named in it but types that are
always visible. -/
def plainSite : Site where
  classPath := { types := [], nodup_names := List.nodup_nil }
  package := "app"

/-- A harbour is obtained from a factory method by reflection, and has three members that are
injected by reflection: a setter, which wants the variable of the factory method, and two fields of
one name. -/
def harbourWiring : Wiring where
  definition := { name := "harbour", type := .raw "app.Harbour" }
  typeAccessible := true
  instantiation := .factoryMethod "app.Config" none "harbour" [] [] true
  injections := [
    .method "app.Harbour" "factory" [] [] true,
    .field "app.Harbour" "pilot" (.raw "lib.Pilot") .null true,
    .field "app.Port" "pilot" (.raw "lib.Pilot") .null true]

end Sample

open Sample in
theorem Site.locals_distinct_harbour :
    (plainSite.supplier harbourWiring).locals =
        ["factoryMethod", "bean", "factoryMethod1", "pilotField", "pilotField1"] ∧
      ∃ before statements after var,
        plainSite.supplier harbourWiring = .block (before ++ statements ++ after) ∧
        (plainSite.completions harbourWiring)[2]?.map Completion.statements = some statements ∧
        plainSite.UsesOwn (.field "app.Port" "pilot" (.raw "lib.Pilot") .null true) var
          statements ∧
        ∀ name, var = some name →
          name ∉ locals (before ++ after) ∧ name ∉ used (before ++ after) :=
  ⟨by decide +kernel, (locals_distinct plainSite harbourWiring).2.2 2 _ rfl⟩

end StaticWiring
