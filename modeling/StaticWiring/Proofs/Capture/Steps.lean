import StaticWiring.Capture.Task
import StaticWiring.Proofs.Definition.Catalog

/-!
# The steps of a capture

A task that reaches a class registers the definition of the class and leaves the tasks of its
configuration, unless the class is processed already or its conditions fail. The task of a factory
method registers the definition of the method, unless its conditions fail. Nothing else happens.

## Main definitions

* `TypeDecl.definition` — the definition of a class.
* `Capture.Reaches` — the class that a task reaches.
* `Capture.Steps` — what a task does.

## Main results

* `Capture.steps_of_step` — a task does one of these things.
* `Capture.step_of_reaches`, `Capture.step_class_next` — what a task does with a class.
* `Capture.run_cons_of_ok` — the next task of a capture.
* `Capture.run_induction` — what every step keeps holds at the end.
* `Capture.allHold_eq_ok_true_iff` — all conditions hold.
* `Capture.register_eq_ok` — a registration where no definition may replace another one.
-/

namespace StaticWiring

/-- The definition of a class under a name. Its description says how the class was met. -/
def TypeDecl.definition (t : TypeDecl) (name origin : String) : Definition where
  name
  type := .raw t.name
  primary := t.primary
  description := some (origin ++ " " ++ t.name)

namespace Capture

variable {c : Capture} {p q : Progress} {t : TypeDecl} {task : Task} {tasks followUps : List Task}

/-! ### Conditions -/

theorem allHold_eq_ok_true_iff {element : String} {catalog : Catalog}
    {conditions : List Condition} : c.allHold element catalog conditions = .ok true ↔
      ∀ condition ∈ conditions, c.holds element catalog condition = .ok true := by
  induction conditions with
  | nil => simp [allHold]
  | cons condition conditions ih =>
    rw [allHold, List.forall_mem_cons, ← ih]
    split
    · next failed => simp [failed]
    · next unmet => simp [unmet]
    · next met => simp [met]

/-- The name of the element matters to failures only. Conditions that hold may therefore be replayed
under another name. -/
theorem holds_eq_ok_of_element {element : String} {catalog : Catalog} {condition : Condition}
    {result : Bool} (h : c.holds element catalog condition = .ok result) (other : String) :
    c.holds other catalog condition = .ok result := by
  cases condition with
  | onProperty name expected ifMissing =>
    simp only [holds] at h ⊢
    split at h
    · cases h
    · exact h
  | onProfile | onClass | onMissingClass | onBean | onMissingBean => exact h

/-! ### Registration -/

/-- Where no definition may replace another one, only a new name can be registered. The catalog
grows by that definition, and nothing else changes. -/
theorem register_eq_ok (strict : c.allowsOverriding = false) {d : Definition}
    (h : c.register p d = .ok q) :
    d.name ∉ p.catalog.names ∧ q = ⟨p.catalog.register d, p.processed⟩ := by
  unfold register at h
  split at h
  · next absent =>
    cases h
    refine ⟨fun taken => ?_, rfl⟩
    have known : p.catalog.contains d.name = true := Catalog.contains_iff.2 taken
    simp [Catalog.contains, absent] at known
  · rw [if_neg (by simp [strict])] at h
    cases h

theorem register_of_fresh {d : Definition} (fresh : d.name ∉ p.catalog.names) :
    c.register p d = .ok ⟨p.catalog.register d, p.processed⟩ := by
  have absent : p.catalog.get? d.name = none := by
    rw [← Option.not_isSome_iff_eq_none]
    exact fun taken => fresh (Catalog.contains_iff.1 taken)
  simp only [register, absent]

/-! ### Steps -/

/-- The class that a task reaches, the name and the origin of its definition, and the tasks that it
leaves. -/
inductive Reaches (c : Capture) : Task → TypeDecl → (name origin : String) → List Task → Prop
  /-- A class that the application is started with. -/
  | root {type : String} {t : TypeDecl} (found : c.classPath.get? type = some t) :
    Reaches c (.root type) t t.componentName "class" (c.followUps t t.componentName)
  /-- An auto-configuration. -/
  | autoConfiguration {type : String} {t : TypeDecl} (found : c.classPath.get? type = some t) :
    Reaches c (.autoConfiguration type) t t.name "class" (c.followUps t t.name)
  /-- An imported class. -/
  | imported {type importer : String} {t : TypeDecl} (found : c.classPath.get? type = some t) :
    Reaches c (.imported type importer) t t.name "class" (c.followUps t t.name)
  /-- A configuration class found by a scan. -/
  | configuration {type : String} {t : TypeDecl} (found : c.classPath.get? type = some t)
      (configures : t.isConfiguration = true) :
    Reaches c (.scanned type) t t.componentName "class" (c.followUps t t.componentName)
  /-- A component found by a scan that is no configuration class. -/
  | component {type : String} {t : TypeDecl} (found : c.classPath.get? type = some t)
      (plain : t.isConfiguration = false) :
    Reaches c (.scanned type) t t.componentName "scanned component" []

/-- What a task does to the progress `p`, and the tasks that it leaves. Every step that succeeds is
one of these, so that later proofs split cases here and not in the code. -/
inductive Steps (c : Capture) (p : Progress) : Task → Progress → List Task → Prop
  /-- An auto-configuration is not on the class path. -/
  | noAutoConfiguration {type : String} (absent : c.classPath.get? type = none) :
    Steps c p (.autoConfiguration type) p []
  /-- A class found by a scan is not on the class path. -/
  | noComponent {type : String} (absent : c.classPath.get? type = none) :
    Steps c p (.scanned type) p []
  /-- The class is processed already. -/
  | processed {task : Task} {t : TypeDecl} {name origin : String} {tasks : List Task}
      (reaches : c.Reaches task t name origin tasks) (old : t.name ∈ p.processed) :
    Steps c p task p []
  /-- The conditions of the class fail. -/
  | unmet {task : Task} {t : TypeDecl} {name origin : String} {tasks : List Task}
      (reaches : c.Reaches task t name origin tasks) (new : t.name ∉ p.processed)
      (unmet : c.allHold t.name p.catalog t.conditions = .ok false) : Steps c p task p []
  /-- The definition of the class is registered. -/
  | ofClass {task : Task} {t : TypeDecl} {name origin : String} {tasks : List Task} {q : Progress}
      (reaches : c.Reaches task t name origin tasks) (new : t.name ∉ p.processed)
      (met : c.allHold t.name p.catalog t.conditions = .ok true)
      (registered : c.register { p with processed := p.processed ++ [t.name] }
        (t.definition name origin) = .ok q) : Steps c p task q tasks
  /-- The method is no factory method. -/
  | noFactoryMethod {type name : String} {m : MethodDecl} (undeclared : m.bean = none) :
    Steps c p (.factoryMethod type name m) p []
  /-- The conditions of the factory method fail. -/
  | unmetMethod {type name : String} {m : MethodDecl} {bean : BeanDecl}
      (declared : m.bean = some bean)
      (unmet : c.allHold (type ++ "." ++ m.name) p.catalog bean.conditions = .ok false) :
    Steps c p (.factoryMethod type name m) p []
  /-- The definition of the factory method is registered. -/
  | ofMethod {type name : String} {m : MethodDecl} {bean : BeanDecl} {q : Progress}
      (declared : m.bean = some bean)
      (met : c.allHold (type ++ "." ++ m.name) p.catalog bean.conditions = .ok true)
      (registered : c.register p (factoryDefinition type name m bean) = .ok q) :
    Steps c p (.factoryMethod type name m) q []

theorem Reaches.get?_eq {name origin : String} (h : c.Reaches task t name origin tasks) :
    c.classPath.get? t.name = some t := by
  cases h with
  | root found | autoConfiguration found | imported found | configuration found _
  | component found _ => rwa [ClassPath.name_of_get? found]

theorem Reaches.eq_followUps {name origin : String} (h : c.Reaches task t name origin tasks) :
    tasks = c.followUps t name ∨ tasks = [] := by
  cases h with
  | root | autoConfiguration | imported | configuration => exact .inl rfl
  | component => exact .inr rfl

theorem steps_of_configure {name : String}
    (reaches : c.Reaches task t name "class" (c.followUps t name))
    (h : c.configure p t name = .ok (q, followUps)) : c.Steps p task q followUps := by
  unfold configure at h
  split at h
  · next old =>
    cases h
    exact .processed reaches (List.contains_iff_mem.1 old)
  · next new =>
    have new : t.name ∉ p.processed := fun old => new (List.contains_iff_mem.2 old)
    split at h
    · cases h
    · next unmet =>
      cases h
      exact .unmet reaches new unmet
    · next met =>
      split at h
      · cases h
      · next registered =>
        cases h
        exact .ofClass reaches new met registered

theorem steps_of_addComponent
    (reaches : c.Reaches task t t.componentName "scanned component" [])
    (new : t.name ∉ p.processed) (h : alone (c.addComponent p t) = .ok (q, followUps)) :
    c.Steps p task q followUps := by
  unfold addComponent at h
  split at h
  · cases h
  · next unmet =>
    cases h
    exact .unmet reaches new unmet
  · next met =>
    cases registered : c.registerClass p t t.componentName "scanned component" with
    | error e =>
      rw [registered] at h
      cases h
    | ok r =>
      rw [registered] at h
      cases h
      exact .ofClass reaches new met registered

theorem steps_of_addFactoryMethod {type name : String} {m : MethodDecl}
    (h : alone (c.addFactoryMethod p type name m) = .ok (q, followUps)) :
    c.Steps p (.factoryMethod type name m) q followUps := by
  unfold addFactoryMethod at h
  split at h
  · next undeclared =>
    cases h
    exact .noFactoryMethod undeclared
  · next bean declared =>
    split at h
    · cases h
    · next unmet =>
      cases h
      exact .unmetMethod declared unmet
    · next met =>
      cases registered : c.register p (factoryDefinition type name m bean) with
      | error e =>
        rw [registered] at h
        cases h
      | ok r =>
        rw [registered] at h
        cases h
        exact .ofMethod declared met registered

/-- A step that succeeds does what its task does. Later proofs split these cases and leave the code
of a step alone. -/
theorem steps_of_step (h : c.step p task = .ok (q, followUps)) : c.Steps p task q followUps := by
  unfold step at h
  split at h
  · split at h
    · cases h
    · next found => exact steps_of_configure (.root found) h
  · split at h
    · next absent =>
      cases h
      exact .noAutoConfiguration absent
    · next found => exact steps_of_configure (.autoConfiguration found) h
  · split at h
    · cases h
    · next found => exact steps_of_configure (.imported found) h
  · split at h
    · next absent =>
      cases h
      exact .noComponent absent
    · next t found =>
      split at h
      · next old =>
        have old : t.name ∈ p.processed := List.contains_iff_mem.1 old
        cases configures : t.isConfiguration with
        | true =>
          cases h
          exact .processed (.configuration found configures) old
        | false =>
          cases h
          exact .processed (.component found configures) old
      · next new =>
        split at h
        · next configures => exact steps_of_configure (.configuration found configures) h
        · next plain =>
          exact steps_of_addComponent (.component found (Bool.eq_false_iff.2 plain))
            (fun old => new (List.contains_iff_mem.2 old)) h
  · exact steps_of_addFactoryMethod h

/-! ### Steps under conditions -/

/-- A class whose conditions hold is registered when a task reaches it, and leaves the tasks of the
task. It is the converse of the case split, for the case in which something happens. -/
theorem step_of_reaches {name origin : String} (reaches : c.Reaches task t name origin tasks)
    (new : t.name ∉ p.processed) (met : c.allHold t.name p.catalog t.conditions = .ok true)
    (registered : c.register { p with processed := p.processed ++ [t.name] }
      (t.definition name origin) = .ok q) : c.step p task = .ok (q, tasks) := by
  have registered : c.registerClass p t name origin = .ok q := registered
  cases reaches with
  | root found | autoConfiguration found | imported found =>
    simp only [step, found, configure, List.contains_iff_mem, if_neg new, met, registered]
  | configuration found configures =>
    simp only [step, found, configure, List.contains_iff_mem, if_neg new, configures, if_true, met,
      registered]
  | component found plain =>
    simp only [step, found, List.contains_iff_mem, if_neg new, plain, Bool.false_eq_true, if_false,
      addComponent, met, registered, alone, Except.map]

/-- A factory method whose conditions fail is left out. Nothing else changes, so that the method is
as good as absent. -/
theorem step_factoryMethod_of_unmet {type name : String} {m : MethodDecl} {bean : BeanDecl}
    (declared : m.bean = some bean)
    (unmet : c.allHold (type ++ "." ++ m.name) p.catalog bean.conditions = .ok false) :
    c.step p (.factoryMethod type name m) = .ok (p, []) := by
  simp only [step, addFactoryMethod, declared, unmet, alone, Except.map]

/-! ### The next definition of a catalog -/

section Next

variable {all : Catalog} {i : Nat} {processed : List String}

/-- Where the definition at a position of a catalog is registered behind those before it, one more
definition of the catalog is there. No two definitions of a catalog have the same name. -/
theorem register_next {d : Definition} (next : all.definitions[i]? = some d) :
    c.register ⟨all.before i, processed⟩ d = .ok ⟨all.before (i + 1), processed⟩ := by
  rw [register_of_fresh (Catalog.fresh_before next), ← Catalog.register_before next]

/-- The next definition comes from a class whose conditions hold. Samples are captured step by step
with this lemma and the next one. -/
theorem step_class_next {name origin : String} (reaches : c.Reaches task t name origin tasks)
    (next : all.definitions[i]? = some (t.definition name origin)) (new : t.name ∉ processed)
    (met : c.allHold t.name (all.before i) t.conditions = .ok true) :
    c.step ⟨all.before i, processed⟩ task =
      .ok (⟨all.before (i + 1), processed ++ [t.name]⟩, tasks) :=
  step_of_reaches reaches new met (register_next next)

/-- The next definition comes from a factory method whose conditions hold. The class that declares
it is not looked at. -/
theorem step_factoryMethod_next {type name : String} {m : MethodDecl} {bean : BeanDecl}
    (next : all.definitions[i]? = some (factoryDefinition type name m bean))
    (declared : m.bean = some bean)
    (met : c.allHold (type ++ "." ++ m.name) (all.before i) bean.conditions = .ok true) :
    c.step ⟨all.before i, processed⟩ (.factoryMethod type name m) =
      .ok (⟨all.before (i + 1), processed⟩, []) := by
  simp only [step, addFactoryMethod, declared, met, register_next next, alone, Except.map]

end Next

/-! ### Runs -/

theorem run_cons_of_ok (h : c.step p task = .ok (q, followUps)) :
    c.run p (task :: tasks) = c.run q (followUps ++ tasks) := by
  rw [run]
  split
  · next e done =>
    rw [h] at done
    cases done
  · next done =>
    rw [h] at done
    cases done
    rfl

/-- What holds of the start and is kept by every step holds once all tasks are done. The induction
over a run is done here once, and every invariant only has to show its step. -/
theorem run_induction {motive : Progress → List Task → Prop}
    (keeps : ∀ p task tasks q followUps, motive p (task :: tasks) → c.Steps p task q followUps →
      motive q (followUps ++ tasks))
    (start : motive p tasks) (h : c.run p tasks = .ok q) : motive q [] := by
  fun_induction run c p tasks with
  | case1 p =>
    cases h
    exact start
  | case2 => cases h
  | case3 p task tasks r followUps done _ ih =>
    exact ih (keeps p task tasks r followUps start (steps_of_step done)) h

end Capture

end StaticWiring
