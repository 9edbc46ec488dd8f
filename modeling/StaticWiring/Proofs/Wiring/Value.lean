import Mathlib.Data.List.Forall2
import StaticWiring.Wiring.Choice

/-!
# The definitions behind injected values

The value that is found for an injection point is what it asks for: the literal of its expression,
the object of the container for its type, all candidates for its element type, or one candidate for
its type, which is the qualified one if there is a qualifier. It mentions definitions of the catalog
only. The executable that is chosen is passed such values, one for every parameter, and nothing is
passed to optional parameters only.

## Main definitions

* `Assembly.Knows` — the definitions that a value mentions are in the catalog.
* `Assembly.IsCandidate` — another definition can be injected for a type.
* `Assembly.Serves`, `Assembly.Answers` — a value is what an injection point asks for.
* `Assembly.Passes` — a value is what is passed to a parameter.

## Main results

* `Assembly.answers_of_value?` — the value of an injection point.
* `Assembly.passes_of_arguments` — the arguments of an executable.
* `Assembly.choose_eq_ok` — the chosen executable.
-/

namespace StaticWiring.Assembly

variable {a : Assembly} {self : String} {point : InjectionPoint} {v : Value}

/-- All definitions that the value mentions are in the catalog. Other values mention none and are
always known. -/
def Knows (a : Assembly) (v : Value) : Prop :=
  ∀ name ∈ v.references, name ∈ a.catalog.names

theorem knows_of_references_eq_nil (h : v.references = []) : a.Knows v := by
  intro name hname
  rw [h] at hname
  exact absurd hname List.not_mem_nil

/-! ### Candidates -/

/-- The definition is another one than `user`, and its instances can be injected for the type.
Qualifiers and names are not looked at yet. -/
structure IsCandidate (a : Assembly) (user : String) (type : TypeRef) (d : Definition) : Prop where
  /-- It is in the catalog. -/
  mem_definitions : d ∈ a.catalog.definitions
  /-- It is not the definition that the value is for. -/
  name_ne : d.name ≠ user
  /-- Its type can be used for the type. -/
  isCandidate : Catalog.isCandidate a.classPath d.type type = true

theorem mem_candidates {type : TypeRef} {d : Definition} :
    d ∈ a.candidates self type ↔ a.IsCandidate self type d := by
  simp only [candidates, Catalog.candidates, List.mem_filter, bne_iff_ne]
  exact ⟨fun ⟨⟨mem, fits⟩, other⟩ => ⟨mem, other, fits⟩, fun h => ⟨⟨h.1, h.3⟩, h.2⟩⟩

theorem IsCandidate.mem_names {type : TypeRef} {d : Definition} (h : a.IsCandidate self type d) :
    d.name ∈ a.catalog.names :=
  List.mem_map_of_mem h.mem_definitions

theorem candidates_sublist (type : TypeRef) :
    (a.candidates self type).Sublist a.catalog.definitions :=
  List.filter_sublist.trans List.filter_sublist

/-- The names are those of all candidates for a type. The list is determined by this. -/
structure ListsCandidates (a : Assembly) (user : String) (type : TypeRef)
    (names : List String) : Prop where
  /-- There is a candidate. -/
  ne_nil : names ≠ []
  /-- Every name is listed once. -/
  nodup : names.Nodup
  /-- The names are in the order of the catalog. -/
  sublist : names.Sublist a.catalog.names
  /-- They are the names of the candidates. -/
  mem_iff : ∀ name, name ∈ names ↔ ∃ d, a.IsCandidate user type d ∧ d.name = name

theorem listsCandidates (type : TypeRef) (h : (a.candidates self type).map (·.name) ≠ []) :
    a.ListsCandidates self type ((a.candidates self type).map (·.name)) where
  ne_nil := h
  nodup := a.catalog.nodup_names.sublist ((candidates_sublist type).map _)
  sublist := (candidates_sublist type).map _
  mem_iff name := by simp only [List.mem_map, mem_candidates]

theorem prefer_sublist (p : Definition → Bool) (ds : List Definition) :
    (prefer p ds).Sublist ds := by
  unfold prefer
  split
  · exact List.filter_sublist
  · exact List.Sublist.refl ds

theorem narrow_sublist (name : String) (ds : List Definition) : (narrow name ds).Sublist ds :=
  (prefer_sublist _ _).trans (prefer_sublist _ _)

/-! ### Values -/

/-- The value is what an injection point of the definition `self` asks for. Each case is one of the
ways in which values are found. -/
inductive Serves (a : Assembly) (self : String) (point : InjectionPoint) : Value → Prop
  /-- The literal that the expression denotes. -/
  | literal {expression text : String} {l : Literal} (stated : point.expression = some expression)
      (resolved : a.environment.resolve expression = .ok text)
      (read : Literal.ofText? a.classPath point.type.name text = some l) :
    Serves a self point (.literal l)
  /-- The object of the container for the type. -/
  | container {object : ContainerObject}
      (provided : ContainerObject.ofType? point.type.name = some object) :
    Serves a self point (.container object)
  /-- All candidates for the element type. -/
  | beans {kind : CollectionKind} {element : TypeRef} {names : List String}
      (collection : CollectionKind.ofType? point.type = some (kind, element))
      (listed : a.ListsCandidates self element names) :
    Serves a self point (.beans kind element names)
  /-- A candidate for the type, the qualified one if there is a qualifier. -/
  | bean {d : Definition} (candidate : a.IsCandidate self point.type d)
      (qualified : ∀ qualifier, point.qualifier = some qualifier → d.name = qualifier) :
    Serves a self point (.bean d.name point.type)

theorem Serves.knows (h : a.Serves self point v) : a.Knows v := by
  cases h with
  | literal | container => exact knows_of_references_eq_nil rfl
  | beans _ listed => exact fun name hname => listed.sublist.subset hname
  | bean candidate _ =>
    intro name hname
    obtain rfl := List.mem_singleton.1 hname
    exact candidate.mem_names

/-- The value, if there is one, is what an injection point asks for. It is what is known of a search
that does not fail. -/
inductive Answers (a : Assembly) (self : String) (point : InjectionPoint) : Option Value → Prop
  /-- A value that it asks for. -/
  | value {v : Value} (serves : a.Serves self point v) : Answers a self point (some v)
  /-- No value, if the injection point is optional. -/
  | nothing (optional : point.required = false) : Answers a self point none

theorem answers_of_absent {fault : DependencyFault} {value : Option Value}
    (h : absent point.required fault = .ok value) : a.Answers self point value := by
  cases required : point.required with
  | true => simp [absent, required] at h
  | false =>
    simp only [absent, required, Bool.false_eq_true, if_false, Except.ok.injEq] at h
    exact h ▸ .nothing required

variable {value : Option Value}

theorem answers_of_literal? {expression : String} (stated : point.expression = some expression)
    (h : a.literal? point expression = .ok value) : a.Answers self point value := by
  simp only [literal?] at h
  split at h
  · exact answers_of_absent h
  · next text resolved =>
    split at h
    · next l read =>
      cases h
      exact .value (.literal stated resolved read)
    · cases h

theorem answers_of_collection? {kind : CollectionKind} {element : TypeRef}
    (collection : CollectionKind.ofType? point.type = some (kind, element))
    (h : a.collection? self point kind element = .ok value) : a.Answers self point value := by
  simp only [collection?] at h
  split at h
  · exact answers_of_absent h
  · next found =>
    cases h
    exact .value (.beans collection (listsCandidates element found))

theorem answers_of_single? {ds : List Definition}
    (candidates : ∀ d ∈ ds, a.IsCandidate self point.type d)
    (qualified : ∀ d ∈ ds, ∀ qualifier, point.qualifier = some qualifier → d.name = qualifier)
    (h : single? point ds = .ok value) : a.Answers self point value := by
  simp only [single?] at h
  split at h
  · exact answers_of_absent h
  · next d narrowed =>
    cases h
    have mem : d ∈ ds :=
      (narrow_sublist point.name ds).subset (narrowed ▸ List.mem_singleton_self d)
    exact .value (.bean (candidates d mem) (qualified d mem))
  · cases h

theorem answers_of_bean? (h : a.bean? self point = .ok value) : a.Answers self point value := by
  simp only [bean?] at h
  split at h
  · next unqualified =>
    refine answers_of_single? (fun d hd => mem_candidates.1 hd) (fun d _ qualifier hq => ?_) h
    rw [unqualified] at hq
    cases hq
  · next wanted stated =>
    split at h
    · exact answers_of_absent h
    · refine answers_of_single? (fun d hd => mem_candidates.1 (List.mem_filter.1 hd).1)
        (fun d hd qualifier hq => ?_) h
      rw [stated, Option.some.injEq] at hq
      rw [← hq]
      simpa using (List.mem_filter.1 hd).2

theorem answers_of_value? (h : a.value? self point = .ok value) : a.Answers self point value := by
  simp only [value?] at h
  split at h
  · next stated => exact answers_of_literal? stated h
  · split at h
    · next provided =>
      cases h
      exact .value (.container provided)
    · split at h
      · next collection => exact answers_of_collection? collection h
      · exact answers_of_bean? h

theorem serves_of_value? (h : a.value? self point = .ok (some v)) : a.Serves self point v := by
  cases answers_of_value? h with
  | value serves => exact serves

/-! ### Arguments -/

/-- The value is what is passed to a parameter of an executable. What is absent is passed as
nothing. -/
inductive Passes (a : Assembly) (self : String) (p : Parameter) : Value → Prop
  /-- A value that the parameter asks for. -/
  | value {v : Value} (serves : a.Serves self p.point v) : Passes a self p v
  /-- Nothing, if the parameter is optional. -/
  | nothing (optional : p.required = false) : Passes a self p .null

theorem Passes.knows {p : Parameter} (h : a.Passes self p v) : a.Knows v := by
  cases h with
  | value serves => exact serves.knows
  | nothing => exact knows_of_references_eq_nil rfl

/-- Values that mention definitions of the catalog one by one do so together. Nothing is asked of
the parameters. -/
theorem knows_of_forall₂ {ps : List Parameter} {values : List Value}
    (h : List.Forall₂ (fun _ v => a.Knows v) ps values) : ∀ v ∈ values, a.Knows v := by
  induction h with
  | nil => exact fun v hv => absurd hv List.not_mem_nil
  | cons knows _ ih => exact List.forall_mem_cons.2 ⟨knows, ih⟩

theorem Answers.passes {p : Parameter} (h : a.Answers self p.point value) :
    a.Passes self p (value.getD .null) := by
  cases h with
  | value serves => exact .value serves
  | nothing optional => exact .nothing optional

theorem passes_of_argumentsFrom {kind signature : String} {i : Nat} {ps : List Parameter}
    {values : List Value} (h : a.argumentsFrom self kind signature i ps = .ok values) :
    List.Forall₂ (a.Passes self) ps values := by
  induction ps generalizing i values with
  | nil =>
    cases h
    exact .nil
  | cons p ps ih =>
    simp only [argumentsFrom] at h
    split at h
    · cases h
    · next value found =>
      split at h
      · cases h
      · next rest others =>
        cases h
        exact .cons (answers_of_value? found).passes (ih others)

theorem passes_of_arguments {kind : String} {e : Executable} {values : List Value}
    (h : a.arguments self kind e = .ok values) :
    List.Forall₂ (a.Passes self) e.parameters values :=
  passes_of_argumentsFrom h

/-! ### The chosen executable -/

theorem mem_of_mem_greatest {α : Type} {key : α → Nat} {xs : List α} {x : α}
    (h : x ∈ greatest key xs) : x ∈ xs :=
  (List.mem_filter.1 h).1

theorem pool_sublist (es : List Executable) : (Executable.pool es).Sublist es := by
  unfold Executable.pool
  split
  · exact List.Sublist.refl _
  · split
    · exact List.Sublist.refl _
    · exact List.filter_sublist

/-- The chosen executable is one of those that are offered, called with its arguments. Marks and
lengths decide which one it is. -/
theorem choose_eq_ok {type kind : String} {es : List Executable} {e : Executable}
    {values : List Value} (h : a.choose self type kind es = .ok (e, values)) :
    e ∈ es ∧ a.arguments self kind e = .ok values := by
  simp only [choose] at h
  split at h
  · next chosen hchosen =>
    cases h
    have mem : (e, values) ∈ a.callable self kind (Executable.pool es) :=
      mem_of_mem_greatest (hchosen ▸ List.mem_singleton_self _)
    obtain ⟨e', he', harguments⟩ := List.mem_filterMap.1 mem
    cases hvalues : a.arguments self kind e' with
    | error fault => simp [hvalues, Except.toOption] at harguments
    | ok values' =>
      simp only [hvalues, Except.toOption, Option.map_some, Option.some.injEq,
        Prod.mk.injEq] at harguments
      obtain ⟨rfl, rfl⟩ := harguments
      exact ⟨(pool_sublist es).subset he', hvalues⟩
  · split at h <;> cases h
  · cases h

end StaticWiring.Assembly
