import StaticWiring.Proofs.Capture.Conditions

/-!
# The shape of a captured catalog

Where no definition may replace another one, the catalog of a capture starts with the container's
own definitions. Every class on the class path has one definition at most, and so has every factory
method. The definition of a factory method comes behind that of the class which declares it, and
names it as its factory bean unless the method is static.

## Main definitions

* `Capture.IsShaped` — these facts about a catalog.

## Main results

* `Capture.isShaped_of_load` — they hold of the definitions of an application.
-/

namespace StaticWiring.Capture

variable {c : Capture} {catalog : Catalog}

/-- What the definitions of an application look like. All parts follow from the history of the
catalog, one induction for each. -/
structure IsShaped (c : Capture) (catalog : Catalog) : Prop where
  /-- The container's own definitions come first. -/
  infrastructure : Definition.infrastructure <+: catalog.definitions
  /-- No two definitions share a name. -/
  names : catalog.names.Nodup
  /-- No two definitions of the application construct the same type. -/
  types : catalog.applicationTypes.Nodup
  /-- The types that are constructed are on the class path. -/
  known : ∀ type ∈ catalog.applicationTypes,
    ∃ t, c.classPath.get? t.name = some t ∧ type = .raw t.name
  /-- No two definitions call the same factory method. -/
  methods : catalog.factoryMethods.Nodup
  /-- Before the definition of a factory method comes that of the type which declares it. It is the
  factory bean if the first factory method of the name is not static. -/
  owners : ∀ i d type factoryBean method, catalog.definitions[i]? = some d →
    d.origin = .factoryMethod type factoryBean method →
    ∃ owner ∈ catalog.definitions.take i,
      owner.role = .application ∧ owner.origin = .construction ∧ owner.type = .raw type ∧
      ∃ t m, c.classPath.get? type = some t ∧
        t.beanMethods.find? (·.name == method) = some m ∧
        factoryBean = if m.isStatic then none else some owner.name

/-! ### One definition more -/

theorem IsCaptured.infrastructure_prefix (h : c.IsCaptured catalog) :
    Definition.infrastructure <+: catalog.definitions := by
  induction h with
  | start => exact (Catalog.definitions_ofList_infrastructure).symm ▸ List.prefix_rfl
  | register h fresh captures ih =>
    rw [Catalog.definitions_register_of_fresh fresh]
    exact ih.trans (List.prefix_append _ _)

/-- What is new with every definition that has it is had by one definition only. Names, types and
factory methods are three such things. -/
theorem IsCaptured.nodup_filterMap {α : Type} {key : Definition → Option α}
    (own : Definition.infrastructure.filterMap key = [])
    (new : ∀ {earlier d k}, c.Captures earlier d → key d = some k →
      k ∉ earlier.definitions.filterMap key)
    (h : c.IsCaptured catalog) : (catalog.definitions.filterMap key).Nodup := by
  induction h with
  | start =>
    rw [Catalog.definitions_ofList_infrastructure, own]
    exact List.nodup_nil
  | @register catalog d h fresh captures ih =>
    rw [Catalog.definitions_register_of_fresh fresh, Lists.filterMap_concat]
    cases had : key d with
    | none => rwa [Option.toList_none, List.append_nil]
    | some k =>
      exact ih.append (List.nodup_singleton k) (List.disjoint_singleton.2 (new captures had))

theorem IsCaptured.nodup_applicationTypes (h : c.IsCaptured catalog) :
    catalog.applicationTypes.Nodup := by
  refine h.nodup_filterMap rfl fun captures constructs => ?_
  cases captures with
  | ofClass found new met =>
    cases constructs
    exact new
  | ofMethod declares declared new met => cases constructs

theorem IsCaptured.nodup_factoryMethods (h : c.IsCaptured catalog) :
    catalog.factoryMethods.Nodup := by
  refine h.nodup_filterMap rfl fun captures calls => ?_
  cases captures with
  | ofClass found new met => cases calls
  | ofMethod declares declared new met =>
    cases calls
    exact new

theorem IsCaptured.exists_of_mem_applicationTypes (h : c.IsCaptured catalog) {type : TypeRef}
    (member : type ∈ catalog.applicationTypes) :
    ∃ t, c.classPath.get? t.name = some t ∧ type = .raw t.name := by
  obtain ⟨d, hd, constructs⟩ := List.mem_filterMap.1 member
  obtain ⟨i, at_i⟩ := List.getElem?_of_mem hd
  obtain own | captures := h.cases_of_getElem? at_i
  · obtain ⟨entry, -, rfl⟩ := List.mem_map.1 own
    cases constructs
  · cases captures with
    | @ofClass t name origin found new met =>
      cases constructs
      exact ⟨t, found, rfl⟩
    | ofMethod declares declared new met => cases constructs

theorem IsCaptured.exists_owner (h : c.IsCaptured catalog) {i : Nat} {d : Definition}
    {type method : String} {factoryBean : Option String} (at_i : catalog.definitions[i]? = some d)
    (origin : d.origin = .factoryMethod type factoryBean method) :
    ∃ owner ∈ catalog.definitions.take i,
      owner.role = .application ∧ owner.origin = .construction ∧ owner.type = .raw type ∧
      ∃ t m, c.classPath.get? type = some t ∧
        t.beanMethods.find? (·.name == method) = some m ∧
        factoryBean = if m.isStatic then none else some owner.name := by
  obtain own | captures := h.cases_of_getElem? at_i
  · obtain ⟨entry, -, rfl⟩ := List.mem_map.1 own
    cases origin
  · cases captures with
    | ofClass found new met => cases origin
    | @ofMethod t name m bean declares declared new met =>
      cases origin
      obtain ⟨kind, owner⟩ := declares.owner
      exact ⟨t.definition name kind, owner, rfl, rfl, rfl, t, m, declares.found, declares.first,
        rfl⟩

/-! ### The definitions of an application -/

/-- Where no definition may replace another one, the definitions of an application start with the
container's own, construct each class and call each factory method once, and every factory method is
behind the class that declares it. -/
theorem isShaped_of_load (strict : c.allowsOverriding = false)
    {roots autoConfigurations : List String}
    (loaded : c.load roots autoConfigurations = .ok catalog) : c.IsShaped catalog := by
  have captured := isCaptured_of_load strict loaded
  exact ⟨captured.infrastructure_prefix, catalog.nodup_names, captured.nodup_applicationTypes,
    fun _ => captured.exists_of_mem_applicationTypes, captured.nodup_factoryMethods,
    fun _ _ _ _ _ => captured.exists_owner⟩

theorem isShaped_of_load_workshopCapture :
    Sample.workshopCapture.allowsOverriding = false ∧
      Sample.workshopCapture.load ["app.Workshop"] ["lib.Tools"] = .ok Sample.workshopCatalog ∧
      Sample.workshopCapture.IsShaped Sample.workshopCatalog :=
  ⟨rfl, Sample.load_workshopCapture, isShaped_of_load rfl Sample.load_workshopCapture⟩

end StaticWiring.Capture
