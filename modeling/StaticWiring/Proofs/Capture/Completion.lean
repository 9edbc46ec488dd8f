import StaticWiring.Proofs.Capture.History

/-!
# Classes that a capture cannot miss

A class that a task reaches is registered when the task is done, or was before: its name is
processed only together with its definition. So a class whose conditions hold whatever was
registered before has a definition at the end, as soon as some task that reaches it waits.

## Main definitions

* `Capture.Progress.IsRecorded` — every processed class has a definition.
* `Condition.IsStatic` — a condition that does not depend on definitions.

## Main results

* `Capture.mem_applicationTypes_of_run` — a class that is reached has a definition in the end.
* `Capture.allHold_eq_of_isStatic` — static conditions hold always or never.
* `Capture.exists_steps_of_load` — the first task of an application, and all others.
-/

namespace StaticWiring

/-- The condition is one on properties, on profiles, or on types of the class path. It says nothing
about definitions, and so does not depend on when it is evaluated. -/
def Condition.IsStatic : Condition → Prop
  | .onProperty _ _ _ => True
  | .onProfile _ => True
  | .onClass _ => True
  | .onMissingClass _ => True
  | .onBean _ => False
  | .onMissingBean _ => False

namespace Capture

variable {c : Capture} {catalog : Catalog} {p q : Progress} {t : TypeDecl} {task : Task}
  {tasks followUps : List Task} {name origin : String}

/-! ### Static conditions -/

theorem holds_eq_of_isStatic {condition : Condition} (static : condition.IsStatic)
    (element : String) (catalog catalog' : Catalog) :
    c.holds element catalog condition = c.holds element catalog' condition := by
  cases condition with
  | onProperty | onProfile | onClass | onMissingClass => rfl
  | onBean | onMissingBean => exact static.elim

/-- Static conditions hold always or never. What is registered beside them makes no difference. -/
theorem allHold_eq_of_isStatic {conditions : List Condition}
    (static : ∀ condition ∈ conditions, condition.IsStatic) (element : String)
    (catalog catalog' : Catalog) :
    c.allHold element catalog conditions = c.allHold element catalog' conditions := by
  induction conditions with
  | nil => rfl
  | cons condition conditions ih =>
    obtain ⟨first, others⟩ := List.forall_mem_cons.1 static
    rw [allHold, allHold, holds_eq_of_isStatic first element catalog catalog', ih others]

/-! ### Registered classes -/

/-- Every class that is processed has a definition. Registering a class and marking it as processed
happen together. -/
def Progress.IsRecorded (p : Progress) : Prop :=
  ∀ type ∈ p.processed, TypeRef.raw type ∈ p.catalog.applicationTypes

/-- What is registered once is registered from then on. It may only be lost where definitions can
replace each other. -/
theorem Steps.definitions_subset (strict : c.allowsOverriding = false)
    (step : c.Steps p task q followUps) : p.catalog.definitions ⊆ q.catalog.definitions := by
  cases step with
  | noAutoConfiguration | noComponent | processed | unmet | noFactoryMethod | unmetMethod =>
    exact List.Subset.refl _
  | ofClass reaches new met registered | ofMethod declared met registered =>
    obtain ⟨fresh, rfl⟩ := register_eq_ok strict registered
    rw [Catalog.definitions_register_of_fresh fresh]
    exact List.subset_append_left _ _

/-- The types that are constructed once are constructed from then on. It carries a class that was
constructed through all later steps. -/
theorem Steps.applicationTypes_subset (strict : c.allowsOverriding = false)
    (step : c.Steps p task q followUps) :
    p.catalog.applicationTypes ⊆ q.catalog.applicationTypes :=
  List.filterMap_subset _ (step.definitions_subset strict)

theorem Progress.IsRecorded.step (strict : c.allowsOverriding = false) (h : p.IsRecorded)
    (step : c.Steps p task q followUps) : q.IsRecorded := by
  have kept := step.applicationTypes_subset strict
  cases step with
  | noAutoConfiguration | noComponent | processed | unmet | noFactoryMethod | unmetMethod => exact h
  | ofClass reaches new met registered =>
    obtain ⟨fresh, rfl⟩ := register_eq_ok strict registered
    intro type member
    obtain old | here := List.mem_append.1 member
    · exact kept (h type old)
    · rw [List.mem_singleton.1 here, Catalog.applicationTypes_register fresh]
      exact List.mem_append_right _ (List.mem_singleton_self _)
  | ofMethod declared met registered =>
    obtain ⟨fresh, rfl⟩ := register_eq_ok strict registered
    exact fun type member => kept (h type member)

theorem isRecorded_start : Progress.IsRecorded ⟨.ofList Definition.infrastructure, []⟩ :=
  fun _ member => nomatch member

/-! ### Reached classes -/

/-- A task reaches one class, and in one way. The form of the task determines the name and the tasks
that the class leaves. -/
theorem Reaches.unique {t' : TypeDecl} {name' origin' : String} {tasks' : List Task}
    (h : c.Reaches task t name origin tasks) (h' : c.Reaches task t' name' origin' tasks') :
    t = t' ∧ name = name' ∧ origin = origin' ∧ tasks = tasks' := by
  cases h <;> cases h' <;> grind

/-- Once the task that reaches it is done, a class whose conditions hold is registered. If it was
registered before, it stays so. -/
theorem Steps.mem_applicationTypes (strict : c.allowsOverriding = false) (recorded : p.IsRecorded)
    (reaches : c.Reaches task t name origin tasks)
    (met : c.allHold t.name p.catalog t.conditions = .ok true)
    (step : c.Steps p task q followUps) : TypeRef.raw t.name ∈ q.catalog.applicationTypes := by
  cases step with
  | noAutoConfiguration absent | noComponent absent =>
    cases reaches <;> next found => rw [absent] at found; cases found
  | noFactoryMethod | unmetMethod | ofMethod => cases reaches
  | processed reaches' old =>
    obtain ⟨rfl, -⟩ := reaches.unique reaches'
    exact recorded t.name old
  | unmet reaches' new unmet =>
    obtain ⟨rfl, -⟩ := reaches.unique reaches'
    rw [met] at unmet
    cases unmet
  | ofClass reaches' new met registered =>
    obtain ⟨rfl, -⟩ := reaches.unique reaches'
    obtain ⟨fresh, rfl⟩ := register_eq_ok strict registered
    rw [Catalog.applicationTypes_register fresh]
    exact List.mem_append_right _ (List.mem_singleton_self _)

/-- A class whose conditions hold always has a definition in the end, if a task that waits reaches
it. -/
theorem mem_applicationTypes_of_run (strict : c.allowsOverriding = false)
    (recorded : p.IsRecorded) (reaches : c.Reaches task t name origin followUps)
    (met : ∀ catalog, c.allHold t.name catalog t.conditions = .ok true) (waits : task ∈ tasks)
    (done : c.run p tasks = .ok q) : TypeRef.raw t.name ∈ q.catalog.applicationTypes := by
  -- Until the task is done it waits, and once it is done the definition stays.
  have kept := run_induction (c := c) (motive := fun p tasks => p.IsRecorded ∧
    (task ∈ tasks ∨ TypeRef.raw t.name ∈ p.catalog.applicationTypes)) ?_ ⟨recorded, .inl waits⟩ done
  · exact kept.2.resolve_left List.not_mem_nil
  · rintro p next tasks q followUps' ⟨recorded, waits | registered⟩ step
    · refine ⟨recorded.step strict step, ?_⟩
      obtain rfl | later := List.mem_cons.1 waits
      · exact .inr (step.mem_applicationTypes strict recorded reaches (met p.catalog))
      · exact .inl (List.mem_append_right _ later)
    · exact ⟨recorded.step strict step, .inr (step.applicationTypes_subset strict registered)⟩

/-! ### The start of an application -/

theorem exists_steps_of_run (h : c.run p (task :: tasks) = .ok q) :
    ∃ r followUps, c.Steps p task r followUps ∧ c.run r (followUps ++ tasks) = .ok q := by
  cases done : c.step p task with
  | error e =>
    rw [run] at h
    split at h
    · cases h
    · next done' =>
      rw [done] at done'
      cases done'
  | ok result =>
    obtain ⟨r, followUps⟩ := result
    rw [run_cons_of_ok done] at h
    exact ⟨r, followUps, steps_of_step done, h⟩

/-- The first class that an application is started with, and all that remains to be done. Everything
after the first step is a run of the tasks that it leaves and of the remaining ones. -/
theorem exists_steps_of_load {root : String} {roots autoConfigurations : List String}
    (h : c.load (root :: roots) autoConfigurations = .ok catalog) :
    ∃ r followUps q, c.Steps ⟨.ofList Definition.infrastructure, []⟩ (.root root) r followUps ∧
      c.run r (followUps ++ startTasks roots autoConfigurations) = .ok q ∧ q.catalog = catalog := by
  unfold load at h
  split at h
  · cases h
  · next q done =>
    cases h
    obtain ⟨r, followUps, steps, rest⟩ := exists_steps_of_run done
    exact ⟨r, followUps, q, steps, rest, rfl⟩

end Capture

end StaticWiring
