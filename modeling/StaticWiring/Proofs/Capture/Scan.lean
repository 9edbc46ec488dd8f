import StaticWiring.Proofs.Capture.Completion
import StaticWiring.Proofs.Capture.Shape
import StaticWiring.Proofs.ClassPath.Order
import StaticWiring.Proofs.ClassPath.Package

/-!
# Classes that a scan finds

A class that an application is started with, and that scans packages, has every component of these
packages registered whose conditions are static and hold. Where no definition may replace another
one, each of them has one definition, however often it is reached: by further scans, by imports, or
as an auto-configuration.

The container's own definitions construct types too, and the class path may describe these types. So
a component of such a type has its definition besides the one of the container.

## Main definitions

* `TypeDecl.IsFoundBy` — a scan of one class finds another one.
* `Catalog.constructions` — the definitions that construct a type.

## Main results

* `Capture.IsCaptured.constructions_eq` — a captured class is constructed by one definition, apart
  from those of the container.
* `Capture.constructions_of_scan` — so is every component that a scan finds.
-/

namespace StaticWiring

/-! ### Found classes -/

/-- A scan of the class `r` finds the class `t`: a component without the annotation of
auto-configurations, in one of the packages that `r` declares or in its own package if it declares
no package by name, or in a subpackage. -/
structure TypeDecl.IsFoundBy (t r : TypeDecl) : Prop where
  /-- The class is a component. -/
  component : t.isComponent = true
  /-- The class is no auto-configuration. -/
  application : t.isAnnotatedWith Annotation.autoConfiguration = false
  /-- The package of the class starts with the segments of a package that is scanned. -/
  package : ∃ packages, r.componentScan = some packages ∧
    ∃ package ∈ if packages = [] then [r.package] else packages,
      ClassPath.segments package <+: ClassPath.segments t.package

namespace Capture

variable {c : Capture} {catalog : Catalog} {r t : TypeDecl}

theorem mem_scannedPackages_iff {package : String} : package ∈ scannedPackages r ↔
    ∃ packages, r.componentScan = some packages ∧
      package ∈ if packages = [] then [r.package] else packages := by
  unfold scannedPackages
  split
  · next none => simp [none]
  · next own => simp [own]
  · next packages given named =>
    have given : packages ≠ [] := given
    simp [named, given]

/-- What a scan finds waits as a task once the class that scans is processed, and nothing else
does. -/
theorem mem_followUps_scanned_iff (known : c.classPath.get? t.name = some t) {name : String} :
    .scanned t.name ∈ c.followUps r name ↔ t.IsFoundBy r := by
  constructor
  · intro waits
    rw [followUps, List.mem_append, List.mem_append] at waits
    -- Imports and bean methods leave other kinds of tasks.
    obtain (waits | waits) | waits := waits
    · obtain ⟨package, scanned, waits⟩ := List.mem_flatMap.1 waits
      obtain ⟨s, candidate, same⟩ := List.mem_map.1 waits
      obtain ⟨inside, own⟩ := List.mem_filter.1 candidate
      obtain ⟨described, within⟩ := List.mem_filter.1 inside
      rw [← Task.scanned.inj same, ClassPath.get?_name_of_mem described] at known
      cases known
      rw [Bool.and_eq_true, Bool.not_eq_true'] at own
      obtain ⟨packages, scans, listed⟩ := mem_scannedPackages_iff.1 scanned
      exact ⟨own.1, own.2, packages, scans, package, listed, ClassPath.isWithin_iff.1 within⟩
    · obtain ⟨imported, -, same⟩ := List.mem_map.1 waits
      cases same
    · obtain ⟨m, -, same⟩ := List.mem_map.1 waits
      cases same
  · intro found
    obtain ⟨packages, scans, package, scanned, within⟩ := found.package
    have candidate : t ∈ c.scan package := by
      refine List.mem_filter.2 ⟨List.mem_filter.2 ⟨List.mem_of_find?_eq_some known, ?_⟩, ?_⟩
      · exact ClassPath.isWithin_iff.2 within
      · rw [found.component, found.application, Bool.not_false, Bool.and_true]
    rw [followUps]
    refine List.mem_append_left _ (List.mem_append_left _ (List.mem_flatMap.2 ⟨package, ?_, ?_⟩))
    · exact mem_scannedPackages_iff.2 ⟨packages, scans, scanned⟩
    · exact List.mem_map.2 ⟨t, candidate, rfl⟩

/-- The task of a scan reaches the class that was found. Whether the class is a configuration class
or not decides on the way. -/
theorem exists_reaches_scanned (known : c.classPath.get? t.name = some t) :
    ∃ name origin followUps, c.Reaches (.scanned t.name) t name origin followUps := by
  cases configures : t.isConfiguration with
  | true => exact ⟨_, _, _, .configuration known configures⟩
  | false => exact ⟨_, _, _, .component known configures⟩

/-! ### Constructed types -/

end Capture

/-- The definition makes an instance of a type by a constructor. The role of the definition plays no
part. -/
def Definition.constructs (type : String) (d : Definition) : Bool :=
  decide (d.origin = .construction) && d.type.name == type

/-- The definitions that make an instance of a type by a constructor, in order. They include those
of the container, in whose role the class was not scanned. -/
def Catalog.constructions (catalog : Catalog) (type : String) : List Definition :=
  catalog.definitions.filter (·.constructs type)

namespace Capture

variable {c : Capture} {catalog : Catalog} {r t : TypeDecl}

/-- Behind the container's own definitions, all definitions are those of the application. It is read
off the history, in which the container's own definitions come first. -/
theorem IsCaptured.exists_application (h : c.IsCaptured catalog) :
    ∃ own, catalog.definitions = Definition.infrastructure ++ own ∧
      ∀ d ∈ own, d.role = .application := by
  induction h with
  | start =>
    refine ⟨[], ?_, fun d member => nomatch member⟩
    rw [Catalog.definitions_ofList_infrastructure, List.append_nil]
  | @register catalog d h fresh captures ih =>
    obtain ⟨own, definitions, application⟩ := ih
    refine ⟨own ++ [d], ?_, ?_⟩
    · rw [Catalog.definitions_register_of_fresh fresh, definitions, List.append_assoc]
    · have last : d.role = .application := by cases captures <;> rfl
      intro e member
      obtain old | here := List.mem_append.1 member
      · exact application e old
      · rwa [List.mem_singleton.1 here]

/-- The conditions of a captured class held once. They held beside the definitions that were
registered at that time. -/
theorem IsCaptured.exists_met (h : c.IsCaptured catalog)
    (known : c.classPath.get? t.name = some t)
    (member : TypeRef.raw t.name ∈ catalog.applicationTypes) :
    ∃ earlier, c.allHold t.name earlier t.conditions = .ok true := by
  obtain ⟨d, hd, constructs⟩ := List.mem_filterMap.1 member
  obtain ⟨i, at_i⟩ := List.getElem?_of_mem hd
  obtain own | captures := h.cases_of_getElem? at_i
  · obtain ⟨entry, -, rfl⟩ := List.mem_map.1 own
    cases constructs
  · cases captures with
    | @ofClass t' name origin found new met =>
      have same : t'.name = t.name := congrArg TypeRef.name (Option.some.inj constructs)
      rw [same, known] at found
      cases found
      exact ⟨_, met⟩
    | ofMethod declares declared new met => cases constructs

/-- A captured class is constructed by one definition of the application, behind those of the
container. -/
theorem IsCaptured.constructions_eq (h : c.IsCaptured catalog)
    (member : TypeRef.raw t.name ∈ catalog.applicationTypes) :
    ∃ d, d.role = .application ∧ catalog.constructions t.name =
      Definition.infrastructure.filter (·.constructs t.name) ++ [d] := by
  obtain ⟨own, definitions, application⟩ := h.exists_application
  have types : catalog.applicationTypes = own.filterMap Definition.applicationType? := by
    rw [Catalog.applicationTypes, definitions, List.filterMap_append]
    rfl
  have constructs : ∀ d ∈ own, d.constructs t.name = true ↔
      d.applicationType? = some (TypeRef.raw t.name) := by
    intro d hd
    have role := application d hd
    simp only [Definition.constructs, Definition.applicationType?, role, Bool.and_eq_true,
      decide_eq_true_eq, beq_iff_eq]
    constructor
    · rintro ⟨origin, name⟩
      have constructed : d.type ∈ catalog.applicationTypes := by
        rw [types]
        refine List.mem_filterMap.2 ⟨d, hd, ?_⟩
        simp only [Definition.applicationType?, role, origin]
      -- Captured classes are named without type arguments.
      obtain ⟨t', -, raw⟩ := h.exists_of_mem_applicationTypes constructed
      rw [raw] at name
      simp only [origin, raw, show t'.name = t.name from name]
    · intro same
      split at same
      · next origin =>
        rw [Option.some.inj same]
        exact ⟨origin, rfl⟩
      · cases same
  rw [types] at member
  obtain ⟨d, hd, -, alone⟩ :=
    Lists.exists_filter_eq_singleton (types ▸ h.nodup_applicationTypes) member constructs
  exact ⟨d, application d hd, by rw [Catalog.constructions, definitions, List.filter_append, alone]⟩

end Capture

/-! ### A town -/

namespace Sample

/-- A class that scans its own package and one of the container's. It thus meets a class that the
container constructs as well. -/
def townClass : TypeDecl where
  name := "app.Town"
  beanName := some "town"
  componentScan := some ["app", "org.springframework.context.annotation"]

/-- A component for the want of a market. -/
def stallClass : TypeDecl where
  name := "app.shop.Stall"
  annotations := ["org.springframework.stereotype.Service"]
  beanName := some "stall"
  conditions := [.onMissingClass ["app.shop.Market"]]

/-- A component of a type that the container constructs as well. -/
def processorClass : TypeDecl where
  name := "org.springframework.context.annotation.ConfigurationClassPostProcessor"
  annotations := ["org.springframework.stereotype.Component"]
  beanName := some "processor"

/-- An application that knows these classes. Nothing is overridden in it. -/
def townCapture : Capture where
  classPath := { types := [townClass, stallClass, processorClass], nodup_names := by decide }
  environment := {}
  options := {}

/-- The definitions of this application. -/
def townCatalog : Catalog where
  definitions := Definition.infrastructure ++ [
    townClass.definition "town" "class",
    stallClass.definition "stall" "scanned component",
    processorClass.definition "processor" "scanned component"]
  nodup_names := by decide

theorem load_townCapture : townCapture.load ["app.Town"] [] = .ok townCatalog := by
  have start : Catalog.ofList Definition.infrastructure = townCatalog.before 7 :=
    Catalog.eq_of_definitions_eq Catalog.definitions_ofList_infrastructure
  have town : townCapture.step ⟨townCatalog.before 7, []⟩ (.root "app.Town") =
      .ok (⟨townCatalog.before 8, ["app.Town"]⟩,
        [.scanned "app.shop.Stall", .scanned processorClass.name]) :=
    Capture.step_class_next (t := townClass) (.root rfl) rfl List.not_mem_nil rfl
  have stall : townCapture.step ⟨townCatalog.before 8, ["app.Town"]⟩ (.scanned "app.shop.Stall") =
      .ok (⟨townCatalog.before 9, ["app.Town", "app.shop.Stall"]⟩, []) :=
    Capture.step_class_next (t := stallClass) (.component rfl rfl) rfl (by decide) rfl
  have processor : townCapture.step ⟨townCatalog.before 9, ["app.Town", "app.shop.Stall"]⟩
      (.scanned processorClass.name) =
        .ok (⟨townCatalog.before 10, ["app.Town", "app.shop.Stall", processorClass.name]⟩, []) :=
    Capture.step_class_next (t := processorClass) (.component rfl rfl) rfl (by decide) rfl
  have finish : townCatalog.before 10 = townCatalog := Catalog.eq_of_definitions_eq rfl
  simp only [Capture.load, Capture.startTasks, List.map_cons, List.map_nil, List.append_nil, start]
  rw [Capture.run_cons_of_ok town, List.append_nil, Capture.run_cons_of_ok stall, List.nil_append,
    Capture.run_cons_of_ok processor, List.nil_append, Capture.run, finish]

theorem isFoundBy_town : stallClass.IsFoundBy townClass ∧ processorClass.IsFoundBy townClass := by
  refine ⟨⟨by decide, by decide, _, rfl, "app", by decide, by decide⟩, ?_⟩
  exact ⟨by decide, by decide, _, rfl, "org.springframework.context.annotation", by decide,
    by decide⟩

/-- A component that a scan finds can have two definitions: its own and one of the container. The
claim that there is one definition has to leave out those of the container. -/
theorem not_constructed_once_processor :
    townCapture.allowsOverriding = false ∧
      townCapture.load ["app.Town"] [] = .ok townCatalog ∧
      townCapture.classPath.get? "app.Town" = some townClass ∧ townClass.conditions = [] ∧
      TypeRef.raw "app.Town" ∈ townCatalog.applicationTypes ∧
      townCapture.classPath.get? processorClass.name = some processorClass ∧
      processorClass.IsFoundBy townClass ∧ processorClass.conditions = [] ∧
      (townCatalog.constructions processorClass.name).length = 2 := by
  refine ⟨rfl, load_townCapture, rfl, rfl, ?_, rfl, isFoundBy_town.2, rfl, by decide⟩
  exact List.mem_filterMap.2 ⟨townClass.definition "town" "class",
    List.mem_of_getElem? (i := 7) rfl, rfl⟩

end Sample

namespace Capture

variable {c : Capture} {catalog : Catalog} {r t : TypeDecl}

/-! ### Components in scanned packages -/

/-- Where no definition may replace another one, and an application is started with one class whose
conditions are static, every component that a scan of this class finds and whose conditions are
static and hold is constructed by exactly one definition of the application. -/
theorem constructions_of_scan (strict : c.allowsOverriding = false) {root : String}
    {autoConfigurations : List String} (loaded : c.load [root] autoConfigurations = .ok catalog)
    (started : c.classPath.get? root = some r)
    (environmental : ∀ condition ∈ r.conditions, condition.IsStatic)
    (captured : TypeRef.raw root ∈ catalog.applicationTypes)
    (known : c.classPath.get? t.name = some t) (found : t.IsFoundBy r)
    (static : ∀ condition ∈ t.conditions, condition.IsStatic)
    (met : c.allHold t.name {} t.conditions = .ok true) :
    ∃ d, d.role = .application ∧ catalog.constructions t.name =
      Definition.infrastructure.filter (·.constructs t.name) ++ [d] := by
  have isCaptured := isCaptured_of_load strict loaded
  refine isCaptured.constructions_eq ?_
  obtain rfl := ClassPath.name_of_get? started
  obtain ⟨p, followUps, q, steps, done, rfl⟩ := exists_steps_of_load loaded
  obtain ⟨name, origin, left, reaches⟩ := exists_reaches_scanned known
  have always (earlier : Catalog) : c.allHold t.name earlier t.conditions = .ok true :=
    (allHold_eq_of_isStatic static t.name earlier {}).trans met
  have recorded : p.IsRecorded := isRecorded_start.step strict steps
  refine mem_applicationTypes_of_run strict recorded reaches always ?_ done
  refine List.mem_append_left _ ?_
  cases steps with
  | processed _ old => cases old
  | unmet reaches new unmet =>
    obtain ⟨rfl, -⟩ := reaches.unique (.root started)
    -- The conditions held when the class was captured, and so they did at the start.
    obtain ⟨earlier, held⟩ := isCaptured.exists_met reaches.get?_eq captured
    rw [allHold_eq_of_isStatic environmental _ earlier, unmet] at held
    cases held
  | ofClass reaches new held registered =>
    obtain ⟨rfl, -, -, rfl⟩ := reaches.unique (.root started)
    exact (mem_followUps_scanned_iff known).2 found

theorem constructions_of_scan_townCapture :
    Sample.townCapture.allowsOverriding = false ∧
      Sample.townCapture.load ["app.Town"] [] = .ok Sample.townCatalog ∧
      Sample.townCapture.classPath.get? "app.Town" = some Sample.townClass ∧
      Sample.stallClass.IsFoundBy Sample.townClass ∧
      Sample.stallClass.conditions = [.onMissingClass ["app.shop.Market"]] ∧
      Sample.townCapture.allHold "app.shop.Stall" {} Sample.stallClass.conditions = .ok true ∧
      ∃ d, d.role = .application ∧ Sample.townCatalog.constructions "app.shop.Stall" = [d] := by
  have captured : TypeRef.raw "app.Town" ∈ Sample.townCatalog.applicationTypes :=
    List.mem_filterMap.2 ⟨Sample.townClass.definition "town" "class",
      List.mem_of_getElem? (i := 7) rfl, rfl⟩
  have found := Sample.isFoundBy_town.1
  refine ⟨rfl, Sample.load_townCapture, rfl, found, rfl, rfl, ?_⟩
  exact constructions_of_scan rfl Sample.load_townCapture (r := Sample.townClass)
    (t := Sample.stallClass) rfl (fun _ member => nomatch member) captured rfl found
    (by simp [Sample.stallClass, Condition.IsStatic]) rfl

end Capture

end StaticWiring
