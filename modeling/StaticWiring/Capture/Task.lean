import StaticWiring.Capture.Basic

/-!
# Capturing a configuration: tasks

A configuration is captured by tasks. A configuration class whose conditions hold registers itself
and leaves as tasks, in this order, the classes found in the packages that it scans, the classes
that it imports, and its factory methods; they are done before any task that waits. Every class is
processed once. A class whose conditions fail is not processed, and may still be when it is reached
again.

## Main definitions

* `Capture.Progress` — the definitions registered and the classes processed so far.
* `Capture.Task` — what remains to be done.
* `Capture.step` — one task.
* `Capture.run` — all tasks.
* `Capture.load` — the definitions of an application.

## Main results

* `Capture.step_decreases` — a task that leaves tasks behind processes a class.
-/

namespace StaticWiring.Capture

/-! ### Registration -/

/-- The definitions registered and the names of the classes processed so far. A class is processed
when its own definition is registered, which happens at most once. -/
structure Progress where
  /-- The definitions. -/
  catalog : Catalog
  /-- The names of the classes. -/
  processed : List String := []

/-- The progress after the registration of a definition. A definition with a name that is already
taken replaces the earlier one if that is allowed, and is an error otherwise. -/
def register (c : Capture) (p : Progress) (d : Definition) : Except LoadError Progress :=
  match p.catalog.get? d.name with
  | none => .ok { p with catalog := p.catalog.register d }
  | some existing =>
    if c.allowsOverriding then .ok { p with catalog := p.catalog.register d }
    else .error (.duplicateDefinition d.name existing.type.render d.type.render)

/-! ### Tasks -/

/-- What remains to be done. Tasks are worked off from the front, and those that a class leaves go
before all others. -/
inductive Task where
  /-- A class that the application is started with. -/
  | root (type : String)
  /-- An auto-configuration, passed over if it is not on the class path. -/
  | autoConfiguration (type : String)
  /-- A class that another one imports. -/
  | imported (type importer : String)
  /-- A class found by a scan. -/
  | scanned (type : String)
  /-- A factory method of a processed class with its definition. -/
  | factoryMethod (type definition : String) (method : MethodDecl)

/-- The types that a scan of a package finds: components, without auto-configurations.
Auto-configurations are left to their own list, where their order is settled. -/
def scan (c : Capture) (package : String) : List TypeDecl :=
  (c.classPath.inPackage package).filter fun t =>
    t.isComponent && !t.isAnnotatedWith Annotation.autoConfiguration

/-- The packages that a class scans. A scan without stated packages is a scan of the package of the
class itself. -/
def scannedPackages (t : TypeDecl) : List String :=
  match t.componentScan with
  | none => []
  | some [] => [t.package]
  | some packages => packages

/-- The first method of each name. Overloads of a factory method share one definition, which the
first of them stands for. -/
def firstOfEachName : List MethodDecl → List MethodDecl
  | [] => []
  | m :: ms => m :: (firstOfEachName ms).filter (·.name != m.name)

/-- The tasks that a processed configuration class leaves. Scanned classes come first, then imported
ones, then the factory methods in the order of their declaration. -/
def followUps (c : Capture) (t : TypeDecl) (definition : String) : List Task :=
  (scannedPackages t).flatMap (fun package => (c.scan package).map fun s => .scanned s.name) ++
    t.imports.map (.imported · t.name) ++
    (firstOfEachName t.beanMethods).map (.factoryMethod t.name definition)

/-- The progress after a class with its definition. The class counts as processed even if its
definition replaces another one. -/
def registerClass (c : Capture) (p : Progress) (t : TypeDecl) (definition origin : String) :
    Except LoadError Progress :=
  c.register { p with processed := p.processed ++ [t.name] } {
    name := definition
    type := .raw t.name
    primary := t.primary
    description := some (origin ++ " " ++ t.name) }

/-- The progress after a configuration class with its definition, and the tasks that it leaves. A
class whose conditions fail is not marked, so that it is looked at again when it is met again. -/
def configure (c : Capture) (p : Progress) (t : TypeDecl) (definition : String) :
    Except LoadError (Progress × List Task) :=
  if p.processed.contains t.name then .ok (p, [])
  else match c.allHold t.name p.catalog t.conditions with
    | .error e => .error e
    | .ok false => .ok (p, [])
    | .ok true =>
      match c.registerClass p t definition "class" with
      | .error e => .error e
      | .ok p => .ok (p, c.followUps t definition)

/-- The progress after a component that is no configuration class. It leaves no tasks, even if it
declares factory methods. -/
def addComponent (c : Capture) (p : Progress) (t : TypeDecl) : Except LoadError Progress :=
  match c.allHold t.name p.catalog t.conditions with
  | .error e => .error e
  | .ok false => .ok p
  | .ok true => c.registerClass p t t.componentName "scanned component"

/-- The definition of a factory method. A static method needs no instance of the class, so that the
definition of the class is mentioned only for the others. -/
def factoryDefinition (type definition : String) (m : MethodDecl) (bean : BeanDecl) :
    Definition where
  name := bean.name.getD m.name
  type := m.returnType
  origin := .factoryMethod type (if m.isStatic then none else some definition) m.name
  primary := bean.primary
  description := some ("factory method " ++ type ++ "." ++ m.name)

/-- The progress after a factory method. The conditions are those of the method; the class has
already been processed. -/
def addFactoryMethod (c : Capture) (p : Progress) (type definition : String) (m : MethodDecl) :
    Except LoadError Progress :=
  match m.bean with
  | none => .ok p
  | some bean =>
    match c.allHold (type ++ "." ++ m.name) p.catalog bean.conditions with
    | .error e => .error e
    | .ok false => .ok p
    | .ok true => c.register p (factoryDefinition type definition m bean)

/-- A result that leaves no tasks. Everything but a configuration class leads to such a result. -/
def alone (result : Except LoadError Progress) : Except LoadError (Progress × List Task) :=
  result.map (·, [])

/-- The progress after a task, and the tasks that it leaves. Each form of task has its own way to
find the class, and its own name for the definition. -/
def step (c : Capture) (p : Progress) : Task → Except LoadError (Progress × List Task)
  | .root type =>
    match c.classPath.get? type with
    | none => .error (.classNotFound type "the application")
    | some t => c.configure p t t.componentName
  | .autoConfiguration type =>
    match c.classPath.get? type with
    | none => .ok (p, [])
    | some t => c.configure p t t.name
  | .imported type importer =>
    match c.classPath.get? type with
    | none => .error (.classNotFound type importer)
    | some t => c.configure p t t.name
  | .scanned type =>
    match c.classPath.get? type with
    | none => .ok (p, [])
    | some t =>
      if p.processed.contains t.name then .ok (p, [])
      else if t.isConfiguration then c.configure p t t.componentName
      else alone (c.addComponent p t)
  | .factoryMethod type definition method => alone (c.addFactoryMethod p type definition method)

/-! ### Termination -/

/-- The number of types that are not processed yet. It bounds how many classes can still leave
tasks. -/
def remaining (c : Capture) (p : Progress) : Nat :=
  (c.classPath.unseen p.processed).length

/-- A step that leaves no tasks keeps what is processed; one that leaves tasks processes a class.
This is what the termination of a run rests on. -/
def Decreases (c : Capture) (p : Progress) (result : Progress × List Task) : Prop :=
  c.remaining result.1 < c.remaining p ∨ c.remaining result.1 ≤ c.remaining p ∧ result.2 = []

theorem processed_register {c : Capture} {p q : Progress} {d : Definition}
    (h : c.register p d = .ok q) : q.processed = p.processed := by
  unfold register at h
  grind

theorem remaining_registerClass_le {c : Capture} {p q : Progress} {t : TypeDecl}
    {definition origin : String} (h : c.registerClass p t definition origin = .ok q) :
    c.remaining q ≤ c.remaining p := by
  unfold registerClass at h
  rw [remaining, processed_register h]
  exact ClassPath.length_unseen_le _ _ _

theorem remaining_registerClass_lt {c : Capture} {p q : Progress} {t : TypeDecl}
    {type definition origin : String} (found : c.classPath.get? type = some t)
    (fresh : p.processed.contains t.name = false)
    (h : c.registerClass p t definition origin = .ok q) : c.remaining q < c.remaining p := by
  unfold registerClass at h
  rw [remaining, processed_register h]
  exact ClassPath.length_unseen_name_lt found fresh

theorem configure_decreases {c : Capture} {p : Progress} {t : TypeDecl} {type definition : String}
    {result : Progress × List Task} (found : c.classPath.get? type = some t)
    (h : c.configure p t definition = .ok result) : c.Decreases p result := by
  unfold configure at h
  split at h
  · cases h; exact .inr ⟨Nat.le_refl _, rfl⟩
  · next fresh =>
    split at h
    · cases h
    · cases h; exact .inr ⟨Nat.le_refl _, rfl⟩
    · split at h
      · cases h
      · next registered =>
        cases h
        exact .inl (remaining_registerClass_lt found (by simpa using fresh) registered)

theorem alone_decreases {c : Capture} {p : Progress} {result : Except LoadError Progress}
    {after : Progress × List Task} (h : alone result = .ok after)
    (le : ∀ q, result = .ok q → c.remaining q ≤ c.remaining p) : c.Decreases p after := by
  cases result with
  | error e => cases h
  | ok q => cases h; exact .inr ⟨le q rfl, rfl⟩

theorem remaining_addComponent_le {c : Capture} {p q : Progress} {t : TypeDecl}
    (h : c.addComponent p t = .ok q) : c.remaining q ≤ c.remaining p := by
  unfold addComponent at h
  split at h
  · cases h
  · cases h; exact Nat.le_refl _
  · exact remaining_registerClass_le h

theorem remaining_addFactoryMethod_le {c : Capture} {p q : Progress} {type definition : String}
    {m : MethodDecl} (h : c.addFactoryMethod p type definition m = .ok q) :
    c.remaining q ≤ c.remaining p := by
  unfold addFactoryMethod at h
  split at h
  · cases h; exact Nat.le_refl _
  · split at h
    · cases h
    · cases h; exact Nat.le_refl _
    · rw [remaining, processed_register h]
      exact Nat.le_refl _

theorem step_decreases {c : Capture} {p : Progress} {task : Task} {result : Progress × List Task}
    (h : c.step p task = .ok result) : c.Decreases p result := by
  unfold step at h
  split at h
  · split at h
    · cases h
    · next found => exact configure_decreases found h
  · split at h
    · cases h; exact .inr ⟨Nat.le_refl _, rfl⟩
    · next found => exact configure_decreases found h
  · split at h
    · cases h
    · next found => exact configure_decreases found h
  · split at h
    · cases h; exact .inr ⟨Nat.le_refl _, rfl⟩
    · next found =>
      split at h
      · cases h; exact .inr ⟨Nat.le_refl _, rfl⟩
      · split at h
        · exact configure_decreases found h
        · exact alone_decreases h fun _ => remaining_addComponent_le
  · exact alone_decreases h fun _ => remaining_addFactoryMethod_le

/-! ### Configurations -/

/-- The progress after all tasks. The tasks that a step leaves are worked off before the remaining
ones. -/
def run (c : Capture) (p : Progress) : List Task → Except LoadError Progress
  | [] => .ok p
  | task :: tasks =>
    match done : c.step p task with
    | .error e => .error e
    | .ok (q, followUps) =>
      have := step_decreases done
      c.run q (followUps ++ tasks)
termination_by tasks => (c.remaining p, tasks.length)
decreasing_by
  rcases this with h | ⟨h, rfl⟩
  · exact Prod.Lex.left _ _ h
  · rcases Nat.lt_or_eq_of_le h with h | h
    · exact Prod.Lex.left _ _ h
    · simp only at h
      rw [h]
      exact Prod.Lex.right _ (by simp)

/-- The tasks that an application starts with: its own configuration, and then the
auto-configurations, whose conditions can so depend on the application's definitions. -/
def startTasks (roots autoConfigurations : List String) : List Task :=
  roots.map .root ++ autoConfigurations.map .autoConfiguration

/-- The definitions of an application, the container's own first. If the capture fails, the error
names the classes that the application starts with. -/
def load (c : Capture) (roots autoConfigurations : List String) :
    Except GenerationError Catalog :=
  match c.run ⟨.ofList Definition.infrastructure, []⟩ (startTasks roots autoConfigurations) with
  | .error cause => .error (.configuration (", ".intercalate roots) cause)
  | .ok p => .ok p.catalog

end StaticWiring.Capture
