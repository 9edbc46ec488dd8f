import StaticWiring.Proofs.Capture.Scan

/-!
# Factory methods of captured classes

A class is registered as a configuration class, or as a component that a scan found and that is no
configuration class. Only the first leaves its factory methods as tasks. So where nothing has a
condition, the definitions of an application call every factory method of the configuration classes
and none of the components, and a class that is imported after a scan took it for a component has
its factory methods left out.

The invariant of a capture says this of every step: the methods of the configuration classes wait or
are registered, those that wait or are registered belong to configuration classes, and what waits to
be scanned was found by the scan of one of them.

## Main definitions

* `Catalog.HasConfiguration`, `Catalog.HasComponent` — how a class is registered.
* `ClassPath.IsUnconditional` — a class path without conditions.
* `Capture.Traced` — the invariant.

## Main results

* `Capture.Traced.step` — every step keeps the invariant.
* `Capture.Traced.factoryMethods_iff` — the factory methods of a class are called unless it is
  registered as a component.
* `Capture.factoryMethods_of_load` — those of the class that an application is started with, and of
  the classes that it imports.
-/

namespace StaticWiring

variable {catalog catalog' : Catalog} {t t' : TypeDecl} {name name' origin origin' : String}

/-! ### How a class is registered -/

theorem TypeDecl.definition_inj (h : t.definition name origin = t'.definition name' origin')
    (same : t.name = t'.name) : origin = origin' := by
  have description : origin ++ " " ++ t.name = origin' ++ " " ++ t'.name :=
    Option.some.inj (congrArg Definition.description h)
  rw [same] at description
  exact (String.append_left_inj _).1 ((String.append_left_inj _).1 description)

namespace Catalog

/-- The class is registered as a configuration class. What its definition is called is of no
account. -/
def HasConfiguration (catalog : Catalog) (t : TypeDecl) : Prop :=
  ∃ name, t.definition name "class" ∈ catalog.definitions

/-- The class is registered as a component that a scan found. A component of this kind leaves no
tasks, and so its factory methods are not called. -/
def HasComponent (catalog : Catalog) (t : TypeDecl) : Prop :=
  ∃ name, t.definition name "scanned component" ∈ catalog.definitions

theorem HasConfiguration.mono (h : catalog.HasConfiguration t)
    (kept : catalog.definitions ⊆ catalog'.definitions) : catalog'.HasConfiguration t :=
  h.imp fun _ member => kept member

theorem HasComponent.mono (h : catalog.HasComponent t)
    (kept : catalog.definitions ⊆ catalog'.definitions) : catalog'.HasComponent t :=
  h.imp fun _ member => kept member

theorem HasConfiguration.of_register_class
    (fresh : (t'.definition name origin).name ∉ catalog.names)
    (h : (catalog.register (t'.definition name origin)).HasConfiguration t) :
    catalog.HasConfiguration t ∨ t.name = t'.name ∧ origin = "class" := by
  obtain ⟨own, member⟩ := h
  rw [definitions_register_of_fresh fresh] at member
  obtain old | here := List.mem_append.1 member
  · exact .inl ⟨own, old⟩
  · have same := List.mem_singleton.1 here
    have named : t.name = t'.name := congrArg (·.type.name) same
    exact .inr ⟨named, (TypeDecl.definition_inj same named).symm⟩

theorem HasConfiguration.of_register_factoryMethod {type : String} {m : MethodDecl}
    {bean : BeanDecl}
    (fresh : (Capture.factoryDefinition type name m bean).name ∉ catalog.names)
    (h : (catalog.register (Capture.factoryDefinition type name m bean)).HasConfiguration t) :
    catalog.HasConfiguration t := by
  obtain ⟨own, member⟩ := h
  rw [definitions_register_of_fresh fresh] at member
  obtain old | here := List.mem_append.1 member
  · exact ⟨own, old⟩
  · have origins := congrArg Definition.origin (List.mem_singleton.1 here)
    cases origins

/-- A class is registered in one way. The two ways differ in the description of the definition, and
there is only one definition of the class. -/
theorem HasConfiguration.not_hasComponent (h : catalog.HasConfiguration t)
    (nodup : catalog.applicationTypes.Nodup) : ¬ catalog.HasComponent t := by
  obtain ⟨name, configuration⟩ := h
  rintro ⟨name', component⟩
  have same := Lists.eq_of_key_eq (k := TypeRef.raw t.name) nodup configuration component rfl rfl
  exact absurd (TypeDecl.definition_inj same rfl) (by decide)

end Catalog

/-! ### Class paths without conditions -/

/-- No type and no factory method has conditions. What is registered is then decided by how classes
are reached alone. -/
structure ClassPath.IsUnconditional (cp : ClassPath) : Prop where
  /-- The types have none. -/
  types : ∀ t ∈ cp.types, t.conditions = []
  /-- The factory methods have none. -/
  methods : ∀ t ∈ cp.types, ∀ m ∈ t.methods, ∀ bean, m.bean = some bean → bean.conditions = []

namespace Capture

variable {c : Capture} {p q : Progress} {m : MethodDecl} {task : Task} {tasks followUps : List Task}
  {r : TypeDecl}

theorem allHold_of_isUnconditional (unconditional : c.classPath.IsUnconditional)
    (known : c.classPath.get? t.name = some t) (earlier : Catalog) :
    c.allHold t.name earlier t.conditions = .ok true := by
  rw [unconditional.types t (List.mem_of_find?_eq_some known), allHold]

/-! ### The invariant -/

/-- A configuration class that is registered scans a package, and finds the class there. It is the
only way in which a component that is no configuration class is met. -/
def Finds (c : Capture) (catalog : Catalog) (t : TypeDecl) : Prop :=
  ∃ r, c.classPath.get? r.name = some r ∧ catalog.HasConfiguration r ∧ t.IsFoundBy r

theorem Finds.mono (h : c.Finds catalog t) (kept : catalog.definitions ⊆ catalog'.definitions) :
    c.Finds catalog' t :=
  h.imp fun _ ⟨known, configuration, found⟩ => ⟨known, configuration.mono kept, found⟩

/-- What holds before every task where nothing has a condition. It adds to the reasons for
definitions what is known about how classes were met. -/
structure Traced (c : Capture) (p : Progress) (tasks : List Task) : Prop where
  /-- Every definition is registered for a reason. -/
  sound : c.Sound p tasks
  /-- What waits to be scanned was found. -/
  scans : ∀ t, c.classPath.get? t.name = some t → .scanned t.name ∈ tasks → c.Finds p.catalog t
  /-- A class is registered as a configuration class, or as a component that a scan found and that
  is no configuration class. -/
  classes : ∀ t, c.classPath.get? t.name = some t →
    TypeRef.raw t.name ∈ p.catalog.applicationTypes →
    p.catalog.HasConfiguration t ∨
      p.catalog.HasComponent t ∧ t.isConfiguration = false ∧ c.Finds p.catalog t
  /-- The factory methods of configuration classes wait or are registered. -/
  covers : ∀ t, c.classPath.get? t.name = some t → p.catalog.HasConfiguration t →
    ∀ m ∈ t.beanMethods, (t.name, m.name) ∈ p.methods tasks
  /-- Those that wait or are registered belong to configuration classes. -/
  owners : ∀ method ∈ p.methods tasks,
    ∃ t, t.name = method.1 ∧ c.classPath.get? t.name = some t ∧ p.catalog.HasConfiguration t

theorem Traced.start {roots autoConfigurations : List String} :
    c.Traced ⟨.ofList Definition.infrastructure, []⟩ (startTasks roots autoConfigurations) := by
  have scans (t : TypeDecl) : Task.scanned t.name ∉ startTasks roots autoConfigurations := by
    intro waits
    obtain waits | waits := List.mem_append.1 waits <;>
      obtain ⟨type, -, same⟩ := List.mem_map.1 waits <;> cases same
  have configures (t : TypeDecl) :
      ¬ (Catalog.ofList Definition.infrastructure).HasConfiguration t := by
    rintro ⟨name, member⟩
    have constructed : TypeRef.raw t.name ∈
        (Catalog.ofList Definition.infrastructure).applicationTypes :=
      List.mem_filterMap.2 ⟨_, member, rfl⟩
    rw [Catalog.applicationTypes_infrastructure] at constructed
    cases constructed
  refine ⟨.start, fun t _ waits => absurd waits (scans t), ?_, ?_, ?_⟩
  · intro t _ member
    rw [Catalog.applicationTypes_infrastructure] at member
    cases member
  · exact fun t _ configuration => absurd configuration (configures t)
  · rw [methods_start]
    exact fun method member => nomatch member

theorem Reaches.method?_eq_none (h : c.Reaches task t name origin tasks) : task.method? = none := by
  cases h <;> rfl

/-- A task that is about no factory method can be left out. No part of the invariant speaks of tasks
that are done. -/
theorem Traced.skip (h : c.Traced p (task :: tasks)) (other : task.method? = none) :
    c.Traced p tasks := by
  have methods : p.methods (task :: tasks) = p.methods tasks := by
    rw [Progress.methods, List.filterMap_cons_none other, Progress.methods]
  exact ⟨h.sound.skip, fun t known waits => h.scans t known (List.mem_cons_of_mem _ waits),
    h.classes, methods ▸ h.covers, methods ▸ h.owners⟩

theorem name_mem_firstOfEachName {ms : List MethodDecl} (h : m ∈ ms) :
    m.name ∈ (firstOfEachName ms).map (·.name) := by
  induction ms with
  | nil => cases h
  | cons first ms ih =>
    rw [firstOfEachName, List.map_cons, List.mem_cons]
    by_cases same : m.name = first.name
    · exact .inl same
    · have later : m ∈ ms := (List.mem_cons.1 h).resolve_left fun here => same (congrArg _ here)
      obtain ⟨m', member, named⟩ := List.mem_map.1 (ih later)
      refine .inr (List.mem_map.2 ⟨m', List.mem_filter.2 ⟨member, ?_⟩, named⟩)
      rw [named]
      exact bne_iff_ne.2 same

/-- A class is reached as a configuration class, which leaves its tasks, or as a component that is
none. -/
theorem Reaches.cases_origin (h : c.Reaches task t name origin tasks) :
    origin = "class" ∧ tasks = c.followUps t name ∨
      origin = "scanned component" ∧ tasks = [] ∧ t.isConfiguration = false ∧
        task = .scanned t.name := by
  cases h with
  | root | autoConfiguration | imported | configuration => exact .inl ⟨rfl, rfl⟩
  | component found plain =>
    exact .inr ⟨rfl, rfl, plain, congrArg Task.scanned (ClassPath.name_of_get? found).symm⟩

/-- The definition of a class is registered. Whatever reached the class, its tasks are put in front
of the others. -/
theorem Traced.ofClass (h : c.Traced p (task :: tasks))
    (reaches : c.Reaches task t name origin followUps) (new : t.name ∉ p.processed)
    (met : c.allHold t.name p.catalog t.conditions = .ok true) (fresh : name ∉ p.catalog.names) :
    c.Traced ⟨p.catalog.register (t.definition name origin), p.processed ++ [t.name]⟩
      (followUps ++ tasks) := by
  have rest := h.skip reaches.method?_eq_none
  have added : (t.definition name origin).name ∉ p.catalog.names := fresh
  have definitions := Catalog.definitions_register_of_fresh added
  have kept : p.catalog.definitions ⊆
      (p.catalog.register (t.definition name origin)).definitions := by
    rw [definitions]
    exact List.subset_append_left _ _
  have here : t.definition name origin ∈
      (p.catalog.register (t.definition name origin)).definitions := by
    rw [definitions]
    exact List.mem_append_right _ (List.mem_singleton_self _)
  have methods := methods_register_class added followUps tasks
  -- Definitions are only added, so what holds of the earlier tasks and classes is kept. What is
  -- left is the new class with its tasks and methods.
  refine ⟨rest.sound.ofClass reaches new met fresh, ?_, ?_, ?_, ?_⟩
  · intro s known waits
    obtain own | old := List.mem_append.1 waits
    · obtain ⟨rfl, rfl⟩ | ⟨-, rfl, -⟩ := reaches.cases_origin
      · exact ⟨t, reaches.get?_eq, ⟨name, here⟩, (mem_followUps_scanned_iff known).1 own⟩
      · cases own
    · exact (rest.scans s known old).mono kept
  · intro s known member
    rw [Catalog.applicationTypes_register added] at member
    obtain old | own := List.mem_append.1 member
    · obtain configuration | ⟨component, plain, found⟩ := rest.classes s known old
      · exact .inl (configuration.mono kept)
      · exact .inr ⟨component.mono kept, plain, found.mono kept⟩
    · have same : t.name = s.name := (congrArg TypeRef.name (List.mem_singleton.1 own)).symm
      have reached := reaches.get?_eq
      rw [same, known] at reached
      cases reached
      obtain ⟨rfl, rfl⟩ | ⟨rfl, -, plain, rfl⟩ := reaches.cases_origin
      · exact .inl ⟨name, here⟩
      · exact .inr ⟨⟨name, here⟩, plain, (h.scans _ known List.mem_cons_self).mono kept⟩
  · intro s known configuration m declared
    rw [methods]
    obtain old | ⟨same, rfl⟩ := configuration.of_register_class added
    · exact List.mem_append_right _ (rest.covers s known old m declared)
    · have reached := reaches.get?_eq
      rw [← same, known] at reached
      cases reached
      obtain ⟨-, rfl⟩ | ⟨other, -⟩ := reaches.cases_origin
      · rw [filterMap_method?_followUps]
        obtain ⟨m', first, named⟩ := List.mem_map.1 (name_mem_firstOfEachName declared)
        exact List.mem_append_left _ (List.mem_map.2 ⟨m', first, by rw [named]⟩)
      · exact absurd other (by decide)
  · intro method known
    rw [methods] at known
    obtain own | old := List.mem_append.1 known
    · obtain ⟨rfl, rfl⟩ | ⟨-, rfl, -⟩ := reaches.cases_origin
      · exact ⟨t, (reaches.fst_of_mem own).symm, reaches.get?_eq, name, here⟩
      · cases own
    · obtain ⟨s, named, described, configuration⟩ := rest.owners method old
      exact ⟨s, named, described, configuration.mono kept⟩

/-- The definition of a factory method is registered. The class that declares it has been registered
before. -/
theorem Traced.ofMethod {type : String} {bean : BeanDecl}
    (h : c.Traced p (.factoryMethod type name m :: tasks)) (declared : m.bean = some bean)
    (met : c.allHold (type ++ "." ++ m.name) p.catalog bean.conditions = .ok true)
    (fresh : (factoryDefinition type name m bean).name ∉ p.catalog.names) :
    c.Traced ⟨p.catalog.register (factoryDefinition type name m bean), p.processed⟩ tasks := by
  have kept : p.catalog.definitions ⊆
      (p.catalog.register (factoryDefinition type name m bean)).definitions := by
    rw [Catalog.definitions_register_of_fresh fresh]
    exact List.subset_append_left _ _
  have methods := methods_register_factoryMethod fresh tasks
  refine ⟨h.sound.ofMethod declared met fresh, ?_, ?_, ?_, ?_⟩
  · exact fun t known waits => (h.scans t known (List.mem_cons_of_mem _ waits)).mono kept
  · intro t known member
    rw [Catalog.applicationTypes_register fresh] at member
    obtain configuration | ⟨component, plain, found⟩ :=
      h.classes t known ((List.append_nil _).subst member)
    · exact .inl (configuration.mono kept)
    · exact .inr ⟨component.mono kept, plain, found.mono kept⟩
  · intro t known configuration m declared
    have covered := h.covers t known (configuration.of_register_factoryMethod fresh) m declared
    exact methods.mem_iff.2 covered
  · intro method known
    obtain ⟨t, named, described, configuration⟩ := h.owners method (methods.mem_iff.1 known)
    exact ⟨t, named, described, configuration.mono kept⟩

/-- A factory method that waits is one, and has no conditions. It is registered as soon as it is its
turn. -/
theorem Sound.exists_bean {type : String} (unconditional : c.classPath.IsUnconditional)
    (h : c.Sound p (.factoryMethod type name m :: tasks)) :
    ∃ bean, m.bean = some bean ∧ bean.conditions = [] := by
  obtain ⟨t, -, declares⟩ := h.declares type name m List.mem_cons_self
  obtain ⟨member, isFactoryMethod⟩ := List.mem_filter.1 (List.mem_of_find?_eq_some declares.first)
  obtain ⟨bean, declared⟩ := Option.isSome_iff_exists.1 isFactoryMethod
  exact ⟨bean, declared, unconditional.methods t (List.mem_of_find?_eq_some declares.found) m member
    bean declared⟩

/-- Where no definition may replace another one and nothing has a condition, every step keeps the
invariant. -/
theorem Traced.step (strict : c.allowsOverriding = false)
    (unconditional : c.classPath.IsUnconditional) (h : c.Traced p (task :: tasks))
    (step : c.Steps p task q followUps) : c.Traced q (followUps ++ tasks) := by
  cases step with
  | noAutoConfiguration | noComponent => exact h.skip rfl
  | processed reaches | unmet reaches => exact h.skip reaches.method?_eq_none
  | ofClass reaches new met registered =>
    obtain ⟨fresh, rfl⟩ := register_eq_ok strict registered
    exact h.ofClass reaches new met fresh
  | noFactoryMethod undeclared =>
    obtain ⟨bean, declared, -⟩ := h.sound.exists_bean unconditional
    rw [undeclared] at declared
    cases declared
  | unmetMethod declared unmet =>
    obtain ⟨bean, declared', none⟩ := h.sound.exists_bean unconditional
    rw [declared] at declared'
    cases declared'
    rw [none, allHold] at unmet
    cases unmet
  | ofMethod declared met registered =>
    obtain ⟨fresh, rfl⟩ := register_eq_ok strict registered
    exact h.ofMethod declared met fresh

/-! ### The definitions of an application -/

/-- The definitions call every factory method of a class that is registered, unless it is registered
as a component; then they call none of them. -/
theorem Traced.factoryMethods_iff (h : c.Traced p []) (known : c.classPath.get? t.name = some t)
    (member : TypeRef.raw t.name ∈ p.catalog.applicationTypes) :
    (∀ m ∈ t.beanMethods, (t.name, m.name) ∈ p.catalog.factoryMethods) ↔
      t.beanMethods = [] ∨ ¬ p.catalog.HasComponent t := by
  have nodup := h.sound.captured.nodup_applicationTypes
  constructor
  · intro called
    rw [Classical.or_iff_not_imp_left]
    intro some
    obtain ⟨m, declared⟩ := List.exists_mem_of_ne_nil _ some
    obtain ⟨t', named, known', configuration⟩ := h.owners _ (called m declared)
    rw [show t'.name = t.name from named, known] at known'
    cases known'
    exact configuration.not_hasComponent nodup
  · rintro (none | single) m declared
    · rw [none] at declared
      cases declared
    · obtain configuration | ⟨component, -⟩ := h.classes t known member
      · exact h.covers t known configuration m declared
      · exact absurd component single

/-- What is registered before a run is registered after it. It is the run of the steps that keep
definitions. -/
theorem definitions_subset_of_run (strict : c.allowsOverriding = false)
    (done : c.run p tasks = .ok q) : p.catalog.definitions ⊆ q.catalog.definitions :=
  run_induction (motive := fun r _ => p.catalog.definitions ⊆ r.catalog.definitions)
    (fun _ _ _ _ _ kept step => List.Subset.trans kept (step.definitions_subset strict))
    (List.Subset.refl _) done

/-- The classes that are imported are on the class path. Otherwise the import would have ended the
run with an error. -/
theorem exists_get?_of_imported {type importer : String} (waits : .imported type importer ∈ tasks)
    (done : c.run p tasks = .ok q) : ∃ t, c.classPath.get? type = some t := by
  have found := run_induction (c := c) (motive := fun _ tasks =>
    .imported type importer ∈ tasks ∨ ∃ t, c.classPath.get? type = some t) ?_ (.inl waits) done
  · exact found.resolve_left List.not_mem_nil
  · rintro p task tasks q followUps (waits | found) step
    · obtain rfl | later := List.mem_cons.1 waits
      · refine .inr ?_
        cases step with
        | processed reaches | unmet reaches | ofClass reaches =>
          cases reaches with
          | imported found => exact ⟨_, found⟩
      · exact .inl (List.mem_append_right _ later)
    · exact .inr found

/-- Where no definition may replace another one and nothing has a condition, the definitions of an
application that is started with one class call all factory methods of this class. They call all
factory methods of a class that it imports unless a scan registered the class as a component before,
which happens only to components that are no configuration classes. -/
theorem factoryMethods_of_load (strict : c.allowsOverriding = false)
    (unconditional : c.classPath.IsUnconditional) {root : String} {autoConfigurations : List String}
    (loaded : c.load [root] autoConfigurations = .ok catalog) :
    ∃ r, c.classPath.get? root = some r ∧
      (∀ m ∈ r.beanMethods, (root, m.name) ∈ catalog.factoryMethods) ∧
      ∀ type ∈ r.imports, ∃ t, c.classPath.get? type = some t ∧
        ((∀ m ∈ t.beanMethods, (type, m.name) ∈ catalog.factoryMethods) ↔
          t.beanMethods = [] ∨ ¬ catalog.HasComponent t) ∧
        (catalog.HasComponent t → t.isConfiguration = false ∧ c.Finds catalog t) := by
  obtain ⟨p, followUps, q, steps, done, rfl⟩ := exists_steps_of_load loaded
  have start : c.Traced ⟨.ofList Definition.infrastructure, []⟩
      (.root root :: startTasks [] autoConfigurations) :=
    (Traced.start : c.Traced _ (startTasks [root] autoConfigurations))
  have traced : c.Traced q [] :=
    run_induction (fun _ _ _ _ _ => Traced.step strict unconditional)
      (start.step strict unconditional steps) done
  have recorded : p.IsRecorded := isRecorded_start.step strict steps
  -- The root is the first task and nothing is processed before it, so it is captured at once.
  cases steps with
  | processed reaches old => cases old
  | unmet reaches new unmet =>
    rw [allHold_of_isUnconditional unconditional reaches.get?_eq] at unmet
    cases unmet
  | @ofClass _ r name origin _ _ reaches new met registered =>
    obtain ⟨fresh, rfl⟩ := register_eq_ok strict registered
    cases reaches with
    | root found =>
    obtain rfl := ClassPath.name_of_get? found
    refine ⟨r, found, ?_, fun type imports => ?_⟩
    · refine traced.covers r found ⟨r.componentName, definitions_subset_of_run strict done ?_⟩
      rw [Catalog.definitions_register_of_fresh fresh]
      exact List.mem_append_right _ (List.mem_singleton_self _)
    · have waits : Task.imported type r.name ∈
          c.followUps r r.componentName ++ startTasks [] autoConfigurations :=
        List.mem_append_left _ (List.mem_append_left _ (List.mem_append_right _
          (List.mem_map_of_mem imports)))
      obtain ⟨t, known⟩ := exists_get?_of_imported waits done
      obtain rfl := ClassPath.name_of_get? known
      have member := mem_applicationTypes_of_run strict recorded (.imported known)
        (allHold_of_isUnconditional unconditional known) waits done
      refine ⟨t, known, traced.factoryMethods_iff known member, fun component => ?_⟩
      obtain configuration | ⟨-, found⟩ := traced.classes t known member
      · have nodup := traced.sound.captured.nodup_applicationTypes
        exact absurd component (configuration.not_hasComponent nodup)
      · exact found

end Capture

/-! ### A yard -/

namespace Sample

/-- A factory method of a yard. -/
def bellMethod : MethodDecl where
  name := "bell"
  returnType := .raw "lib.Bell"
  bean := some {}

/-- A factory method of a crane. -/
def hookMethod : MethodDecl where
  name := "hook"
  returnType := .raw "lib.Hook"
  bean := some {}

/-- A factory method of a pier. -/
def lampMethod : MethodDecl where
  name := "lamp"
  returnType := .raw "lib.Lamp"
  bean := some {}

/-- A class with a factory method that scans its package and imports two classes. -/
def yardClass : TypeDecl where
  name := "app.Yard"
  beanName := some "yard"
  componentScan := some []
  imports := ["app.Crane", "lib.Pier"]
  methods := [bellMethod]

/-- A component of the scanned package with a factory method. -/
def craneClass : TypeDecl where
  name := "app.Crane"
  annotations := ["org.springframework.stereotype.Component"]
  beanName := some "crane"
  methods := [hookMethod]

/-- A class of another package with a factory method. -/
def pierClass : TypeDecl where
  name := "lib.Pier"
  methods := [lampMethod]

/-- An application that knows these classes. -/
def yardCapture : Capture where
  classPath := { types := [yardClass, craneClass, pierClass], nodup_names := by decide }
  environment := {}
  options := {}

/-- The definitions of this application: the crane has no hook. -/
def yardCatalog : Catalog where
  definitions := Definition.infrastructure ++ [
    yardClass.definition "yard" "class",
    craneClass.definition "crane" "scanned component",
    pierClass.definition "lib.Pier" "class",
    Capture.factoryDefinition "lib.Pier" "lib.Pier" lampMethod {},
    Capture.factoryDefinition "app.Yard" "yard" bellMethod {}]
  nodup_names := by decide

theorem isUnconditional_yardCapture : yardCapture.classPath.IsUnconditional := by
  refine ⟨by decide, fun t described m declared bean stated => ?_⟩
  have plain : ∀ t ∈ yardCapture.classPath.types, ∀ m ∈ t.methods, m.bean = some {} := by decide
  rw [plain t described m declared] at stated
  cases stated
  rfl

theorem load_yardCapture : yardCapture.load ["app.Yard"] [] = .ok yardCatalog := by
  have start : Catalog.ofList Definition.infrastructure = yardCatalog.before 7 :=
    Catalog.eq_of_definitions_eq Catalog.definitions_ofList_infrastructure
  have yard : yardCapture.step ⟨yardCatalog.before 7, []⟩ (.root "app.Yard") =
      .ok (⟨yardCatalog.before 8, ["app.Yard"]⟩,
        [.scanned "app.Crane", .imported "app.Crane" "app.Yard", .imported "lib.Pier" "app.Yard",
          .factoryMethod "app.Yard" "yard" bellMethod]) :=
    Capture.step_class_next (t := yardClass) (.root rfl) rfl List.not_mem_nil rfl
  have crane : yardCapture.step ⟨yardCatalog.before 8, ["app.Yard"]⟩ (.scanned "app.Crane") =
      .ok (⟨yardCatalog.before 9, ["app.Yard", "app.Crane"]⟩, []) :=
    Capture.step_class_next (t := craneClass) (.component rfl rfl) rfl (by decide) rfl
  have again : yardCapture.step ⟨yardCatalog.before 9, ["app.Yard", "app.Crane"]⟩
      (.imported "app.Crane" "app.Yard") =
        .ok (⟨yardCatalog.before 9, ["app.Yard", "app.Crane"]⟩, []) := rfl
  have pier : yardCapture.step ⟨yardCatalog.before 9, ["app.Yard", "app.Crane"]⟩
      (.imported "lib.Pier" "app.Yard") =
        .ok (⟨yardCatalog.before 10, ["app.Yard", "app.Crane", "lib.Pier"]⟩,
          [.factoryMethod "lib.Pier" "lib.Pier" lampMethod]) :=
    Capture.step_class_next (t := pierClass) (.imported rfl) rfl (by decide) rfl
  have lamp : yardCapture.step ⟨yardCatalog.before 10, ["app.Yard", "app.Crane", "lib.Pier"]⟩
      (.factoryMethod "lib.Pier" "lib.Pier" lampMethod) =
        .ok (⟨yardCatalog.before 11, ["app.Yard", "app.Crane", "lib.Pier"]⟩, []) :=
    Capture.step_factoryMethod_next rfl rfl rfl
  have bell : yardCapture.step ⟨yardCatalog.before 11, ["app.Yard", "app.Crane", "lib.Pier"]⟩
      (.factoryMethod "app.Yard" "yard" bellMethod) =
        .ok (⟨yardCatalog.before 12, ["app.Yard", "app.Crane", "lib.Pier"]⟩, []) :=
    Capture.step_factoryMethod_next rfl rfl rfl
  have finish : yardCatalog.before 12 = yardCatalog := Catalog.eq_of_definitions_eq rfl
  simp only [Capture.load, Capture.startTasks, List.map_cons, List.map_nil, List.append_nil, start]
  rw [Capture.run_cons_of_ok yard, List.append_nil, Capture.run_cons_of_ok crane, List.nil_append,
    Capture.run_cons_of_ok again, List.nil_append, Capture.run_cons_of_ok pier,
    List.singleton_append, Capture.run_cons_of_ok lamp, List.nil_append,
    Capture.run_cons_of_ok bell, List.nil_append, Capture.run, finish]

/-- The factory method of a class that is imported is left out, since a scan finds the class
first. -/
theorem not_factoryMethods_crane :
    yardCapture.allowsOverriding = false ∧ yardCapture.classPath.IsUnconditional ∧
      yardCapture.load ["app.Yard"] [] = .ok yardCatalog ∧
      yardCapture.classPath.get? "app.Yard" = some yardClass ∧ "app.Crane" ∈ yardClass.imports ∧
      yardCapture.classPath.get? "app.Crane" = some craneClass ∧
      craneClass.beanMethods.map (·.name) = ["hook"] ∧
      ("app.Crane", "hook") ∉ yardCatalog.factoryMethods :=
  ⟨rfl, isUnconditional_yardCapture, load_yardCapture, rfl, by decide, rfl, rfl, by decide⟩

end Sample

theorem Capture.factoryMethods_of_load_yardCapture :
    Sample.yardCapture.allowsOverriding = false ∧
      Sample.yardCapture.classPath.IsUnconditional ∧
      Sample.yardCapture.load ["app.Yard"] [] = .ok Sample.yardCatalog ∧
      ("app.Yard", "bell") ∈ Sample.yardCatalog.factoryMethods ∧
      ("lib.Pier", "lamp") ∈ Sample.yardCatalog.factoryMethods ∧
      ¬ ∀ m ∈ Sample.craneClass.beanMethods,
        ("app.Crane", m.name) ∈ Sample.yardCatalog.factoryMethods := by
  have pier : Sample.yardCatalog.HasConfiguration Sample.pierClass :=
    ⟨"lib.Pier", List.mem_of_getElem? (i := 9) rfl⟩
  have crane : Sample.yardCatalog.HasComponent Sample.craneClass :=
    ⟨"crane", List.mem_of_getElem? (i := 8) rfl⟩
  have nodup := (isCaptured_of_load rfl Sample.load_yardCapture).nodup_applicationTypes
  obtain ⟨r, found, root, imports⟩ := factoryMethods_of_load rfl Sample.isUnconditional_yardCapture
    Sample.load_yardCapture
  cases found
  obtain ⟨t, found, lamp, -⟩ := imports "lib.Pier" (by decide)
  cases found
  obtain ⟨s, found, hook, -⟩ := imports "app.Crane" (by decide)
  cases found
  refine ⟨rfl, Sample.isUnconditional_yardCapture, Sample.load_yardCapture, ?_, ?_, fun all => ?_⟩
  · exact root Sample.bellMethod (List.mem_singleton_self _)
  · exact lamp.2 (.inr (pier.not_hasComponent nodup)) Sample.lampMethod (List.mem_singleton_self _)
  · obtain none | single := hook.1 all
    · cases none
    · exact single crane

end StaticWiring
