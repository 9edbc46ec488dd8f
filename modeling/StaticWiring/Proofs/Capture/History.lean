import StaticWiring.Proofs.Capture.Steps
import StaticWiring.Proofs.Definition.Catalog
import StaticWiring.Proofs.Lists

/-!
# The history of a capture

Where no definition may replace another one, a capture registers definitions one behind the other,
and each of them for a reason that the definitions before it show: a class that is new and whose
conditions hold beside them, or the first factory method of its name in a class among them, which is
new and whose conditions hold beside them. The catalog of a capture is its own history.

That a factory method is new is no fact about the catalog alone. The invariant counts the factory
methods that wait as tasks together with those that are registered: no two of them are the same, and
the classes that declare them are processed.

## Main definitions

* `Catalog.applicationTypes`, `Catalog.factoryMethods` — what is instantiated and what is called.
* `Capture.Captures` — why a definition is registered.
* `Capture.IsCaptured` — a catalog in which every definition is registered for a reason.
* `Capture.Sound` — the invariant of a capture.

## Main results

* `Capture.Sound.step` — every step keeps the invariant.
* `Capture.isCaptured_of_load` — the definitions of an application are registered for reasons.
* `Capture.IsCaptured.cases_of_getElem?` — the reason of a definition by its position.
-/

namespace StaticWiring

/-! ### Classes and factory methods -/

/-- The type that a definition of the application makes an instance of by a constructor. There is
none for definitions of other roles and origins. -/
def Definition.applicationType? (d : Definition) : Option TypeRef :=
  match d.role, d.origin with
  | .application, .construction => some d.type
  | _, _ => none

/-- The factory method that a definition calls, with the type that declares it. There is none for
definitions of other origins. -/
def Definition.factoryMethod? (d : Definition) : Option (String × String) :=
  match d.origin with
  | .factoryMethod type _ method => some (type, method)
  | _ => none

namespace Catalog

/-- The types that definitions of the application make instances of by a constructor, in order. They
are distinct as long as every class is processed once. -/
def applicationTypes (c : Catalog) : List TypeRef :=
  c.definitions.filterMap Definition.applicationType?

/-- The factory methods that definitions call, in order. They are distinct as long as every factory
method is registered once. -/
def factoryMethods (c : Catalog) : List (String × String) :=
  c.definitions.filterMap Definition.factoryMethod?

theorem applicationTypes_register {c : Catalog} {d : Definition} (fresh : d.name ∉ c.names) :
    (c.register d).applicationTypes = c.applicationTypes ++ d.applicationType?.toList := by
  rw [applicationTypes, definitions_register_of_fresh fresh, Lists.filterMap_concat,
    applicationTypes]

theorem factoryMethods_register {c : Catalog} {d : Definition} (fresh : d.name ∉ c.names) :
    (c.register d).factoryMethods = c.factoryMethods ++ d.factoryMethod?.toList := by
  rw [factoryMethods, definitions_register_of_fresh fresh, Lists.filterMap_concat, factoryMethods]

theorem applicationTypes_infrastructure :
    (ofList Definition.infrastructure).applicationTypes = [] := by
  rw [applicationTypes, definitions_ofList_infrastructure]
  rfl

theorem factoryMethods_infrastructure :
    (ofList Definition.infrastructure).factoryMethods = [] := by
  rw [factoryMethods, definitions_ofList_infrastructure]
  rfl

end Catalog

namespace Capture

variable {c : Capture} {catalog : Catalog} {p q : Progress} {t : TypeDecl} {m : MethodDecl}
  {task : Task} {tasks followUps : List Task}

/-! ### Reasons -/

/-- The class `t`, whose definition is registered under `name`, declares the factory method `m`, and
no earlier one of its name. -/
structure Declares (c : Capture) (earlier : Catalog) (t : TypeDecl) (name : String)
    (m : MethodDecl) : Prop where
  /-- The class is on the class path. -/
  found : c.classPath.get? t.name = some t
  /-- The method is the first one of its name. -/
  first : t.beanMethods.find? (·.name == m.name) = some m
  /-- The definition of the class is registered. -/
  owner : ∃ origin, t.definition name origin ∈ earlier.definitions

/-- Why a definition is registered behind earlier ones. It only looks at what is registered already,
so that the reason stays valid. -/
inductive Captures (c : Capture) (earlier : Catalog) : Definition → Prop
  /-- A class is new, and its conditions hold. -/
  | ofClass {t : TypeDecl} {name origin : String} (found : c.classPath.get? t.name = some t)
      (new : TypeRef.raw t.name ∉ earlier.applicationTypes)
      (met : c.allHold t.name earlier t.conditions = .ok true) :
    Captures c earlier (t.definition name origin)
  /-- A factory method of a registered class is new, and its conditions hold. -/
  | ofMethod {t : TypeDecl} {name : String} {m : MethodDecl} {bean : BeanDecl}
      (declares : c.Declares earlier t name m) (declared : m.bean = some bean)
      (new : (t.name, m.name) ∉ earlier.factoryMethods)
      (met : c.allHold (t.name ++ "." ++ m.name) earlier bean.conditions = .ok true) :
    Captures c earlier (factoryDefinition t.name name m bean)

/-- Behind the container's own definitions, every definition is registered for a reason. The history
of a catalog is thus a list of reasons, one for each definition. -/
inductive IsCaptured (c : Capture) : Catalog → Prop
  /-- The container's own definitions. -/
  | start : IsCaptured c (.ofList Definition.infrastructure)
  /-- One more definition. -/
  | register {catalog : Catalog} {d : Definition} (h : IsCaptured c catalog)
      (fresh : d.name ∉ catalog.names) (captures : c.Captures catalog d) :
    IsCaptured c (catalog.register d)

theorem Declares.register {name : String} {d : Definition} (h : c.Declares catalog t name m)
    (fresh : d.name ∉ catalog.names) : c.Declares (catalog.register d) t name m := by
  obtain ⟨origin, owner⟩ := h.owner
  refine ⟨h.found, h.first, origin, ?_⟩
  rw [Catalog.definitions_register_of_fresh fresh]
  exact List.mem_append_left _ owner

/-- A definition is one of the container's own, or registered for a reason that the definitions
before it show. -/
theorem IsCaptured.cases_of_getElem? (h : c.IsCaptured catalog) {i : Nat} {d : Definition}
    (at_i : catalog.definitions[i]? = some d) :
    d ∈ Definition.infrastructure ∨ c.Captures (catalog.before i) d := by
  induction h with
  | start =>
    rw [Catalog.definitions_ofList_infrastructure] at at_i
    exact .inl (List.mem_of_getElem? at_i)
  | register h fresh captures ih =>
    obtain ⟨at_i, earlier⟩ | ⟨rfl, earlier⟩ := Catalog.getElem?_register_cases fresh at_i
    · rw [earlier]
      exact ih at_i
    · rw [earlier]
      exact .inr captures

theorem IsCaptured.captures_of_getElem? (h : c.IsCaptured catalog) {i : Nat} {d : Definition}
    (at_i : catalog.definitions[i]? = some d) (application : d.role = .application) :
    c.Captures (catalog.before i) d := by
  obtain own | captures := h.cases_of_getElem? at_i
  · obtain ⟨entry, -, rfl⟩ := List.mem_map.1 own
    cases application
  · exact captures

/-! ### Factory methods that wait -/

/-- The factory method that a task is about, with the type that declares it. There is none for tasks
that are about classes. -/
def Task.method? : Task → Option (String × String)
  | .factoryMethod type _ m => some (type, m.name)
  | _ => none

/-- The factory methods that wait or are registered. Their order is not that of their registration,
which is why lemmas about them speak of permutations. -/
def Progress.methods (p : Progress) (tasks : List Task) : List (String × String) :=
  tasks.filterMap Task.method? ++ p.catalog.factoryMethods

theorem methods_start {roots autoConfigurations : List String} :
    Progress.methods ⟨.ofList Definition.infrastructure, []⟩
      (startTasks roots autoConfigurations) = [] := by
  rw [Progress.methods, Catalog.factoryMethods_infrastructure, List.append_nil]
  refine List.filterMap_eq_nil_iff.2 fun task h => ?_
  obtain h | h := List.mem_append.1 h <;> obtain ⟨type, -, rfl⟩ := List.mem_map.1 h <;> rfl

/-- The factory methods of a class that is registered wait with all others. They stand before the
tasks that waited already. -/
theorem methods_register_class {name origin : String}
    (fresh : (t.definition name origin).name ∉ p.catalog.names) (followUps tasks : List Task) :
    Progress.methods ⟨p.catalog.register (t.definition name origin), p.processed ++ [t.name]⟩
      (followUps ++ tasks) = followUps.filterMap Task.method? ++ p.methods tasks := by
  rw [Progress.methods, Catalog.factoryMethods_register fresh, List.filterMap_append,
    List.append_assoc, Progress.methods]
  exact congrArg _ (congrArg _ (List.append_nil _))

/-- A factory method that is registered waited before. It moves from those that wait to those that
are registered, and none is added or lost. -/
theorem methods_register_factoryMethod {type name : String} {bean : BeanDecl}
    (fresh : (factoryDefinition type name m bean).name ∉ p.catalog.names) (tasks : List Task) :
    (Progress.methods ⟨p.catalog.register (factoryDefinition type name m bean), p.processed⟩
      tasks).Perm (p.methods (.factoryMethod type name m :: tasks)) := by
  have before : p.methods (.factoryMethod type name m :: tasks) =
      (type, m.name) :: p.methods tasks := rfl
  rw [before, Progress.methods, Catalog.factoryMethods_register fresh, ← List.append_assoc]
  exact List.perm_append_singleton _ _

theorem nodup_names_firstOfEachName (ms : List MethodDecl) :
    ((firstOfEachName ms).map (·.name)).Nodup := by
  induction ms with
  | nil => exact List.nodup_nil
  | cons m ms ih =>
    rw [firstOfEachName, List.map_cons, List.nodup_cons]
    refine ⟨by simp, ih.sublist (List.filter_sublist.map _)⟩

theorem find?_of_mem_firstOfEachName {ms : List MethodDecl} (h : m ∈ firstOfEachName ms) :
    ms.find? (·.name == m.name) = some m := by
  induction ms with
  | nil => cases h
  | cons first ms ih =>
    rw [firstOfEachName, List.mem_cons, List.mem_filter] at h
    obtain rfl | ⟨later, other⟩ := h
    · exact List.find?_cons_of_pos (beq_self_eq_true _)
    · have other : (first.name == m.name) = false := by
        rw [Bool.eq_false_iff]
        intro same
        rw [beq_iff_eq.1 same] at other
        simp at other
      rw [List.find?_cons, other]
      exact ih later

theorem filterMap_method?_followUps (name : String) :
    (c.followUps t name).filterMap Task.method? =
      (firstOfEachName t.beanMethods).map fun m => (t.name, m.name) := by
  have scanned : ((scannedPackages t).flatMap fun package =>
      (c.scan package).map fun s => Task.scanned s.name).filterMap Task.method? = [] := by
    refine List.filterMap_eq_nil_iff.2 fun task h => ?_
    obtain ⟨package, -, h⟩ := List.mem_flatMap.1 h
    obtain ⟨s, -, rfl⟩ := List.mem_map.1 h
    rfl
  have imported : (t.imports.map (Task.imported · t.name)).filterMap Task.method? = [] := by
    refine List.filterMap_eq_nil_iff.2 fun task h => ?_
    obtain ⟨type, -, rfl⟩ := List.mem_map.1 h
    rfl
  rw [followUps, List.filterMap_append, List.filterMap_append, scanned, imported,
    List.nil_append, List.nil_append, List.filterMap_map]
  exact congrFun List.filterMap_eq_map _

theorem mem_followUps_factoryMethod {type definition name : String}
    (h : Task.factoryMethod type definition m ∈ c.followUps t name) :
    type = t.name ∧ definition = name ∧ t.beanMethods.find? (·.name == m.name) = some m := by
  rw [followUps, List.mem_append, List.mem_append] at h
  obtain (h | h) | h := h
  · obtain ⟨package, -, h⟩ := List.mem_flatMap.1 h
    obtain ⟨s, -, h⟩ := List.mem_map.1 h
    cases h
  · obtain ⟨imported, -, h⟩ := List.mem_map.1 h
    cases h
  · obtain ⟨m, first, h⟩ := List.mem_map.1 h
    cases h
    exact ⟨rfl, rfl, find?_of_mem_firstOfEachName first⟩

/-- The factory methods that a class leaves are the first ones of their names. They are left under
the name of the class's own definition. -/
theorem Reaches.first_of_mem {type definition name origin : String}
    (h : c.Reaches task t name origin tasks) (left : Task.factoryMethod type definition m ∈ tasks) :
    type = t.name ∧ definition = name ∧ t.beanMethods.find? (·.name == m.name) = some m := by
  obtain rfl | rfl := h.eq_followUps
  · exact mem_followUps_factoryMethod left
  · cases left

theorem Reaches.fst_of_mem {name origin : String} (h : c.Reaches task t name origin tasks)
    {method : String × String} (left : method ∈ tasks.filterMap Task.method?) :
    method.1 = t.name := by
  obtain rfl | rfl := h.eq_followUps
  · rw [filterMap_method?_followUps] at left
    obtain ⟨m, -, rfl⟩ := List.mem_map.1 left
    rfl
  · cases left

theorem Reaches.nodup_methods {name origin : String} (h : c.Reaches task t name origin tasks) :
    (tasks.filterMap Task.method?).Nodup := by
  obtain rfl | rfl := h.eq_followUps
  · rw [filterMap_method?_followUps]
    refine List.Nodup.of_map Prod.snd ?_
    rw [List.map_map]
    exact nodup_names_firstOfEachName t.beanMethods
  · exact List.nodup_nil

/-! ### The invariant -/

/-- What holds before every task. It is the invariant of a capture: `Sound.step` shows that every
step keeps it. -/
structure Sound (c : Capture) (p : Progress) (tasks : List Task) : Prop where
  /-- Every definition is registered for a reason. -/
  captured : c.IsCaptured p.catalog
  /-- The classes with a definition are processed. -/
  types : ∀ type ∈ p.catalog.applicationTypes, type.name ∈ p.processed
  /-- The factory methods that wait are declared by registered classes. -/
  declares : ∀ type name m, Task.factoryMethod type name m ∈ tasks →
    ∃ t, t.name = type ∧ c.Declares p.catalog t name m
  /-- No factory method waits that waits a second time or is registered. -/
  nodup : (p.methods tasks).Nodup
  /-- The classes of the factory methods are processed. -/
  processed : ∀ method ∈ p.methods tasks, method.1 ∈ p.processed

theorem Sound.start {roots autoConfigurations : List String} :
    c.Sound ⟨.ofList Definition.infrastructure, []⟩ (startTasks roots autoConfigurations) := by
  refine ⟨.start, ?_, ?_, ?_, ?_⟩
  · rw [Catalog.applicationTypes_infrastructure]
    exact fun type h => nomatch h
  · intro type name m h
    obtain h | h := List.mem_append.1 h <;> obtain ⟨root, -, h⟩ := List.mem_map.1 h <;> cases h
  · rw [methods_start]
    exact List.nodup_nil
  · rw [methods_start]
    exact fun method h => nomatch h

/-- A task that does nothing can be left out. No part of the invariant asks that something waits. -/
theorem Sound.skip (h : c.Sound p (task :: tasks)) : c.Sound p tasks := by
  have fewer : (p.methods tasks).Sublist (p.methods (task :: tasks)) :=
    ((List.sublist_cons_self task tasks).filterMap _).append_right _
  exact ⟨h.captured, h.types, fun type name m pending =>
    h.declares type name m (List.mem_cons_of_mem _ pending), h.nodup.sublist fewer,
    fun method known => h.processed method (fewer.subset known)⟩

/-- The definition of a class is registered. The factory methods that it leaves are new, since the
class was not processed before. -/
theorem Sound.ofClass {name origin : String} (h : c.Sound p tasks)
    (reaches : c.Reaches task t name origin followUps) (new : t.name ∉ p.processed)
    (met : c.allHold t.name p.catalog t.conditions = .ok true)
    (fresh : name ∉ p.catalog.names) :
    c.Sound ⟨p.catalog.register (t.definition name origin), p.processed ++ [t.name]⟩
      (followUps ++ tasks) := by
  have definitions := Catalog.definitions_register_of_fresh (d := t.definition name origin) fresh
  have fresh : (t.definition name origin).name ∉ p.catalog.names := fresh
  have methods := methods_register_class fresh followUps tasks
  refine ⟨.register h.captured fresh (.ofClass reaches.get?_eq ?_ met), ?_, ?_, ?_, ?_⟩
  · exact fun old => new (h.types _ old)
  · intro type member
    rw [Catalog.applicationTypes_register fresh] at member
    obtain old | rfl := List.mem_append.1 member |>.imp_right List.mem_singleton.1
    · exact List.mem_append_left _ (h.types type old)
    · exact List.mem_append_right _ (List.mem_singleton_self _)
  · intro type definition m pending
    obtain own | old := List.mem_append.1 pending
    · obtain ⟨rfl, rfl, first⟩ := reaches.first_of_mem own
      refine ⟨t, rfl, reaches.get?_eq, first, origin, ?_⟩
      rw [definitions]
      exact List.mem_append_right _ (List.mem_singleton_self _)
    · obtain ⟨owner, rfl, declares⟩ := h.declares type definition m old
      exact ⟨owner, rfl, declares.register fresh⟩
  · rw [methods]
    -- What the class leaves is its own, and all else belongs to processed classes.
    refine reaches.nodup_methods.append h.nodup fun method own old => new ?_
    rw [← reaches.fst_of_mem own]
    exact h.processed method old
  · intro method known
    rw [methods] at known
    obtain own | old := List.mem_append.1 known
    · rw [reaches.fst_of_mem own]
      exact List.mem_append_right _ (List.mem_singleton_self _)
    · exact List.mem_append_left _ (h.processed method old)

/-- The definition of a factory method is registered. The class that declares it is registered
already, so that the reason is at hand. -/
theorem Sound.ofMethod {type name : String} {bean : BeanDecl}
    (h : c.Sound p (.factoryMethod type name m :: tasks)) (declared : m.bean = some bean)
    (met : c.allHold (type ++ "." ++ m.name) p.catalog bean.conditions = .ok true)
    (fresh : (factoryDefinition type name m bean).name ∉ p.catalog.names) :
    c.Sound ⟨p.catalog.register (factoryDefinition type name m bean), p.processed⟩ tasks := by
  have after := methods_register_factoryMethod fresh tasks
  have new : (type, m.name) ∉ p.catalog.factoryMethods := by
    have distinct : ((type, m.name) :: p.methods tasks).Nodup := h.nodup
    exact fun old => (List.nodup_cons.1 distinct).1 (List.mem_append_right _ old)
  obtain ⟨t, rfl, declares⟩ := h.declares type name m List.mem_cons_self
  refine ⟨.register h.captured fresh (.ofMethod declares declared new met), ?_, ?_, ?_, ?_⟩
  · rw [Catalog.applicationTypes_register fresh]
    exact fun type member => h.types type ((List.append_nil _).subst member)
  · intro other definition m pending
    obtain ⟨owner, rfl, declares⟩ :=
      h.declares other definition m (List.mem_cons_of_mem _ pending)
    exact ⟨owner, rfl, declares.register fresh⟩
  · exact after.nodup_iff.2 h.nodup
  · exact fun method known => h.processed method (after.mem_iff.1 known)

/-- Where no definition may replace another one, every step keeps the invariant. The case split is
the one of `Steps`, so that the conditions need not be evaluated again. -/
theorem Sound.step (strict : c.allowsOverriding = false) (h : c.Sound p (task :: tasks))
    (step : c.Steps p task q followUps) : c.Sound q (followUps ++ tasks) := by
  cases step with
  | noAutoConfiguration | noComponent | processed | unmet | noFactoryMethod | unmetMethod =>
    exact h.skip
  | ofClass reaches new met registered =>
    obtain ⟨fresh, rfl⟩ := register_eq_ok strict registered
    exact h.skip.ofClass reaches new met fresh
  | ofMethod declared met registered =>
    obtain ⟨fresh, rfl⟩ := register_eq_ok strict registered
    exact h.ofMethod declared met fresh

/-- Where no definition may replace another one, every definition of an application is registered
for a reason. -/
theorem isCaptured_of_load (strict : c.allowsOverriding = false)
    {roots autoConfigurations : List String}
    (h : c.load roots autoConfigurations = .ok catalog) : c.IsCaptured catalog := by
  unfold load at h
  split at h
  · cases h
  · next p done =>
    cases h
    have sound : c.Sound p [] := run_induction (fun _ _ _ _ _ => Sound.step strict) .start done
    exact sound.captured

end Capture

end StaticWiring
