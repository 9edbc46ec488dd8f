import StaticWiring.Proofs.Wiring.Resolution

/-!
# Wirings of plain classes

A class is plain if there is nothing to choose when it is wired: it has a single constructor, no
super class, and no other definition that it could be injected with.

## Main results

* `Assembly.candidates_of_alone` — the only definition has no candidates.
* `Assembly.value?_of_single` — the only candidate is the value.
* `Assembly.construct_of_single` — the only constructor is called.
* `Assembly.wire_of_parts` — a wiring from its parts.
-/

namespace StaticWiring

theorem ClassPath.hierarchy_of_superType_eq_none (cp : ClassPath) {t : TypeDecl}
    (h : t.superType = none) : cp.hierarchy t = [t] := by
  rw [hierarchy, lineage]
  split
  · rfl
  · next super =>
    rw [h] at super
    cases super

namespace Assembly

theorem candidates_of_alone {a : Assembly} {d : Definition}
    (alone : a.catalog.definitions = [d]) (type : TypeRef) : a.candidates d.name type = [] := by
  refine List.filter_eq_nil_iff.2 fun e he => ?_
  have he : e ∈ a.catalog.definitions := (List.mem_filter.1 he).1
  rw [alone, List.mem_singleton] at he
  simp [he]

/-- The value of an ordinary type is a definition. No other way of finding a value applies to it. -/
theorem value?_eq_bean? {a : Assembly} {self : String} {point : InjectionPoint}
    (noExpression : point.expression = none)
    (noObject : ContainerObject.ofType? point.type.name = none)
    (noCollection : CollectionKind.ofType? point.type = none) :
    a.value? self point = a.bean? self point := by
  simp only [value?, noExpression, noObject, noCollection]

/-- Beside the only definition, an optional injection point of an ordinary type stays without
value. -/
theorem value?_of_alone {a : Assembly} {d : Definition}
    (alone : a.catalog.definitions = [d]) (point : InjectionPoint)
    (noExpression : point.expression = none)
    (noObject : ContainerObject.ofType? point.type.name = none)
    (noCollection : CollectionKind.ofType? point.type = none)
    (unqualified : point.qualifier = none) (optional : point.required = false) :
    a.value? d.name point = .ok none := by
  rw [value?_eq_bean? noExpression noObject noCollection]
  simp [bean?, unqualified, candidates_of_alone alone, single?, narrow, prefer, absent, optional]

/-- An injection point of an ordinary type has the only candidate as its value. The type of the
value is the one that was asked for. -/
theorem value?_of_single {a : Assembly} {self : String} {point : InjectionPoint} {d : Definition}
    (found : a.candidates self point.type = [d]) (noExpression : point.expression = none)
    (noObject : ContainerObject.ofType? point.type.name = none)
    (noCollection : CollectionKind.ofType? point.type = none)
    (unqualified : point.qualifier = none) :
    a.value? self point = .ok (some (.bean d.name point.type)) := by
  rw [value?_eq_bean? noExpression noObject noCollection]
  simp [bean?, unqualified, found, single?, narrow, prefer]

theorem argumentsFrom_cons_of_ok {a : Assembly} {self kind signature : String} {i : Nat}
    {p : Parameter} {ps : List Parameter} {value : Option Value} {values : List Value}
    (h : a.value? self p.point = .ok value)
    (rest : a.argumentsFrom self kind signature (i + 1) ps = .ok values) :
    a.argumentsFrom self kind signature i (p :: ps) = .ok (value.getD .null :: values) := by
  simp only [argumentsFrom, h, rest]

theorem arguments_of_single {a : Assembly} {self : String} (kind : String)
    {e : Executable} {p : Parameter} {value : Option Value} (single : e.parameters = [p])
    (h : a.value? self p.point = .ok value) :
    a.arguments self kind e = .ok [value.getD .null] := by
  rw [arguments, single]
  exact argumentsFrom_cons_of_ok h rfl

/-- The only executable that is offered is called if its parameters have values. Whether it is
marked makes no difference. -/
theorem choose_of_single {a : Assembly} {self type kind : String} {e : Executable}
    {values : List Value} (h : a.arguments self kind e = .ok values) :
    a.choose self type kind [e] = .ok (e, values) := by
  have callable : a.callable self kind [e] = [(e, values)] := by
    simp [Assembly.callable, h, Except.toOption]
  simp [choose, Executable.pool, callable, greatest]

/-- The only constructor of a class is called if its parameters have values. It is called by
reflection where the code cannot use it. -/
theorem construct_of_single {a : Assembly} {d : Definition} {t : TypeDecl}
    {c : ConstructorDecl} {values : List Value} (single : t.effectiveConstructors = [c])
    (h : a.arguments d.name "constructor" (.ofConstructor t.name c) = .ok values) :
    a.construct d (some t) =
      .ok (.construction (c.parameters.map (·.type)) values !a.canUse t c.visibility) := by
  simp only [construct, single, List.map_cons, List.map_nil, choose_of_single h]
  rfl

theorem wire_of_parts {a : Assembly} {d : Definition} {instantiation : Instantiation}
    {injections : List Injection} (hinstantiation : a.instantiate d = .ok instantiation)
    (hinjections : (a.injections d).outcome = .ok injections) :
    (a.wire d).outcome =
      .ok ⟨d, a.site.canName d.type.name, instantiation, injections⟩ := by
  rw [wire]
  refine Attempt.outcome_bind_eq_ok.2 ⟨(), rfl, ?_⟩
  refine Attempt.outcome_bind_eq_ok.2 ⟨instantiation, hinstantiation, ?_⟩
  refine Attempt.outcome_bind_eq_ok.2 ⟨(), rfl, ?_⟩
  exact Attempt.outcome_bind_eq_ok.2 ⟨injections, hinjections, rfl⟩

/-- A class without super class is complete once what it declares itself is injected. It spares
samples the search through super classes. -/
theorem injections_of_top {a : Assembly} {d : Definition} {t : TypeDecl}
    {injections : List Injection} (constructed : d.origin = .construction)
    (found : a.classPath.get? d.type.name = some t) (top : t.superType = none)
    (h : (collect (a.declaredInjections d.name t)).outcome = .ok injections) :
    (a.injections d).outcome = .ok injections := by
  simpa [Assembly.injections, constructed, found, inject,
    ClassPath.hierarchy_of_superType_eq_none _ top] using h

/-- A class without super class, and without fields and setters to be injected, is complete once
its constructor is called. -/
theorem injections_of_plain {a : Assembly} {d : Definition} {t : TypeDecl}
    (found : a.classPath.get? d.type.name = some t) (top : t.superType = none)
    (fields : injectedFields t = []) (methods : setters t = []) :
    (a.injections d).outcome = .ok [] := by
  rw [Assembly.injections, found]
  split
  · rfl
  · next undescribed _ =>
    cases undescribed
  · next described _ =>
    cases described
    simp [inject, ClassPath.hierarchy_of_superType_eq_none _ top, declaredInjections, fields,
      methods, collect]

theorem wireEach_cons_of_ok {a : Assembly} {d : Definition} {ds : List Definition} {w : Wiring}
    {ws : List Wiring} (first : (a.wire d).outcome = .ok w)
    (rest : (a.wireEach ds).outcome = .ok ws) : (a.wireEach (d :: ds)).outcome = .ok (w :: ws) := by
  rw [wireEach]
  refine Attempt.outcome_bind_eq_ok.2 ⟨w, first, ?_⟩
  exact Attempt.outcome_bind_eq_ok.2 ⟨ws, rest, rfl⟩

theorem wireAll_of_alone {a : Assembly} {d : Definition} {w : Wiring}
    (alone : a.catalog.definitions = [d]) (h : (a.wire d).outcome = .ok w) :
    a.wireAll.outcome = .ok [w] := by
  rw [wireAll, alone]
  exact wireEach_cons_of_ok h rfl

end Assembly

end StaticWiring
