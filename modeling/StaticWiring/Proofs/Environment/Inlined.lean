import Mathlib.Data.List.Infix
import StaticWiring.Proofs.Environment.Files

/-!
# Environments derived with inlined properties

An environment without folders is derived in memory: its sources stay as they are below the inlined
properties, and its active profiles stay active. An environment with folders is assembled anew, and
its active profiles are read off the properties again. Where no property file stands in the folders,
both give the same value to every property. The active profiles can differ: in memory a profile that
the overriding properties list stays active although inlined properties list other ones instead.

## Main definitions

* `Environment.LacksPropertyFiles` — no property file of the application stands in a folder.

## Main results

* `Environment.addMissing_eq_iff` — when profiles that are added in between make no difference.
* `Environment.assemble_of_lacks` — the environment of folders without property files.
* `Environment.withInlined_agrees_iff` — when an environment is derived to the same one in memory
  and from folders without property files.
-/

namespace StaticWiring

namespace Environment

variable {listed active requested : List String}

/-! ### Profiles that are added -/

theorem addMissing_cons_of_mem {profile : String} (member : profile ∈ active)
    (profiles : List String) :
    addMissing active (profile :: profiles) = addMissing active profiles := by
  simp [addMissing, member]

theorem addMissing_cons_of_not_mem {profile : String} (new : profile ∉ active)
    (profiles : List String) :
    addMissing active (profile :: profiles) = addMissing (active ++ [profile]) profiles := by
  simp [addMissing, new]

/-- Active profiles stay active, in front of all others. Nothing that was active is lost or moved.
-/
theorem prefix_addMissing (active profiles : List String) :
    active <+: addMissing active profiles := by
  induction profiles generalizing active with
  | nil => exact List.prefix_rfl
  | cons profile profiles ih =>
    by_cases member : profile ∈ active
    · rw [addMissing_cons_of_mem member]
      exact ih active
    · rw [addMissing_cons_of_not_mem member]
      exact (List.prefix_append active [profile]).trans (ih _)

theorem addMissing_of_subset {profiles : List String} (present : profiles ⊆ active) :
    addMissing active profiles = active := by
  induction profiles with
  | nil => rfl
  | cons profile profiles ih =>
    obtain ⟨member, present⟩ := List.cons_subset.1 present
    rw [addMissing_cons_of_mem member, ih present]

/-- Profiles are added again, from any stage on, without a difference. A stage is reached after some
of the profiles are added. -/
theorem addMissing_of_prefix {stage : List String} (start : listed <+: stage)
    (within : stage <+: addMissing listed requested) :
    addMissing stage requested = addMissing listed requested := by
  induction requested generalizing listed with
  | nil =>
    obtain rfl : stage = listed := List.IsPrefix.eq_of_length_le within start.length_le
    rfl
  | cons profile requested ih =>
    by_cases member : profile ∈ listed
    · rw [addMissing_cons_of_mem member] at within ⊢
      rw [addMissing_cons_of_mem (start.subset member)]
      exact ih start within
    · have further := prefix_addMissing (listed ++ [profile]) requested
      rw [addMissing_cons_of_not_mem member] at within ⊢
      obtain above | below := List.prefix_or_prefix_of_prefix further within
      · rw [addMissing_cons_of_mem (above.subset (List.mem_append_right _ List.mem_cons_self))]
        exact ih above within
      · -- The stage is either all that is listed or holds the profile as well.
        obtain rfl | rfl := (List.prefix_concat_iff.1 below).symm.imp_left
            fun before => (before.eq_of_length_le start.length_le)
        · exact addMissing_cons_of_not_mem member requested
        · rw [addMissing_cons_of_mem (List.mem_append_right _ List.mem_cons_self)]

/-- Profiles that are added in between make no difference if they are the first that are missing
among those added afterwards. -/
theorem addMissing_eq_iff :
    addMissing (addMissing listed active) requested = addMissing listed requested ↔
      addMissing listed active <+: addMissing listed requested := by
  constructor
  · intro same
    rw [← same]
    exact prefix_addMissing _ requested
  · exact addMissing_of_prefix (prefix_addMissing listed active)

/-! ### Folders without property files -/

variable {files : FileTree} {folders : List String}

/-- No property file of the application stands in the folder, with or without a profile. -/
structure LacksPropertyFiles (files : FileTree) (folder : String) : Prop where
  /-- There is no file without a profile. -/
  unprofiled : files.isFile (FileTree.Path.join folder "application.properties") = false
  /-- There is no file of any profile. -/
  profiled : ∀ profile,
    files.isFile (FileTree.Path.join folder (profileFile profile)) = false

/-- A source without entries gives no value to any property. Such sources are therefore left out
when an environment is made. -/
theorem findSome?_get?_filter (sources : List PropertySource) (key : String) :
    (sources.filter (!·.entries.isEmpty)).findSome? (·.get? key) =
      sources.findSome? (·.get? key) := by
  induction sources with
  | nil => rfl
  | cons source sources ih =>
    by_cases empty : source.entries = []
    · have none : source.get? key = none := by simp [PropertySource.get?, empty]
      simp [empty, none, ih]
    · simp [empty, List.findSome?_cons, ih]

/-- The environment of leading sources, where the folders hold no property files. It is what loading
and deriving come to in such folders. -/
def ofLeading (folders : List String) (leading : List PropertySource) (profiles : List String) :
    Environment where
  sources := leading.filter (!·.entries.isEmpty)
  activeProfiles := addMissing (ofSources leading).activeProfiles profiles
  leading := leading
  folders := folders

theorem get?_ofLeading (folders : List String) (leading : List PropertySource)
    (profiles : List String) (key : String) :
    (ofLeading folders leading profiles).get? key = leading.findSome? (·.get? key) :=
  findSome?_get?_filter leading key

theorem assemble_of_lacks (lacks : ∀ folder ∈ folders, LacksPropertyFiles files folder)
    (leading : List PropertySource) (profiles : List String) :
    assemble files folders leading profiles = .ok (ofLeading folders leading profiles) := by
  have base := readSources_of_absent fun folder member => (lacks folder member).unprofiled
  have profiled (active : List String) : readProfiles files folders active = .ok [] :=
    readProfiles_of_absent fun profile folder member => (lacks folder member).profiled profile
  rw [assemble, base]
  simp [bind, Except.bind, pure, Except.pure, profiled, activate, ofLeading]

/-- The profiles that sources list depend on the values of their properties only. How they are
divided into sources is of no account. -/
theorem activeProfiles_ofSources_congr {sources sources' : List PropertySource}
    (same : ∀ key, sources.findSome? (·.get? key) = sources'.findSome? (·.get? key)) :
    (ofSources sources).activeProfiles = (ofSources sources').activeProfiles := by
  have value : ({ sources } : Environment).get? activeProfilesKey =
      ({ sources := sources' } : Environment).get? activeProfilesKey := same _
  simp only [ofSources, listedProfiles, value]

/-! ### Inlined properties -/

/-- The source of inlined properties. It takes precedence over all others of the environment. -/
def inlinedSource (properties : List String) : PropertySource :=
  ⟨"inlined", properties.map inlinedEntry⟩

/-- The profiles that the properties of an environment list once further properties are inlined.
They come before those that are asked for. -/
def listedWith (env : Environment) (properties : List String) : List String :=
  (ofSources (inlinedSource properties :: env.sources)).activeProfiles

theorem listedWith_ofLeading (folders : List String) (leading : List PropertySource)
    (profiles properties : List String) :
    (ofLeading folders leading profiles).listedWith properties =
      (ofSources (inlinedSource properties :: leading)).activeProfiles := by
  refine activeProfiles_ofSources_congr fun key => ?_
  have below := findSome?_get?_filter leading key
  simp only [List.findSome?_cons, ofLeading, below]

/-- Inlined properties that list no profiles leave those that are listed as they are. The property
that lists them has its value from the same source as before. -/
theorem listedWith_of_unlisted {properties : List String}
    (unlisted : (inlinedSource properties).get? activeProfilesKey = none)
    (leading : List PropertySource) :
    (ofSources (inlinedSource properties :: leading)).activeProfiles =
      (ofSources leading).activeProfiles := by
  simp only [ofSources, listedProfiles, get?, List.findSome?_cons, unlisted]

/-- In memory, the sources remain, and so do the active profiles. They are added again behind those
that are listed, so that their order may change. -/
theorem withInlined_ofLeading_nil (files : FileTree) (leading : List PropertySource)
    (before properties profiles : List String) :
    ∃ env, (ofLeading [] leading before).withInlined files properties profiles = .ok env ∧
      (∀ key, env.get? key = (inlinedSource properties :: leading).findSome? (·.get? key)) ∧
      env.activeProfiles =
        addMissing
          (addMissing ((ofLeading [] leading before).listedWith properties)
            (ofLeading [] leading before).activeProfiles) profiles := by
  refine ⟨_, rfl, fun key => ?_, rfl⟩
  have below := findSome?_get?_filter leading key
  change (inlinedSource properties :: (ofLeading [] leading before).sources).findSome? (·.get? key)
    = _
  simp only [List.findSome?_cons, ofLeading, below]

/-- From folders, the environment is assembled anew. Nothing that was active before is looked at. -/
theorem withInlined_ofLeading (filled : folders ≠ [])
    (lacks : ∀ folder ∈ folders, LacksPropertyFiles files folder)
    (leading : List PropertySource) (before properties profiles : List String) :
    (ofLeading folders leading before).withInlined files properties profiles =
      .ok (ofLeading folders (inlinedSource properties :: leading) profiles) := by
  have nonempty : (ofLeading folders leading before).folders.isEmpty = false := by
    simpa [ofLeading] using filled
  rw [withInlined, nonempty]
  exact assemble_of_lacks lacks _ profiles

/-- An environment without folders and one with folders that hold no property files are derived to
environments with the same values of properties. Their active profiles are the same if and only if
those that were active, as far as the properties do not list them any more, are the first that are
missing among those asked for; so they are the same if the inlined properties list no profiles. -/
theorem withInlined_agrees_iff (filled : folders ≠ [])
    (lacks : ∀ folder ∈ folders, LacksPropertyFiles files folder)
    (overrides : List (String × String)) (properties profiles : List String) :
    ∃ memory loaded memory' loaded' : Environment,
      load files [] overrides = .ok memory ∧
      load files folders overrides = .ok loaded ∧
      memory.withInlined files properties profiles = .ok memory' ∧
      loaded.withInlined files properties profiles = .ok loaded' ∧
      (∀ key, memory'.get? key = loaded'.get? key) ∧
      (memory'.activeProfiles = loaded'.activeProfiles ↔
        addMissing (memory.listedWith properties) memory.activeProfiles <+:
          addMissing (memory.listedWith properties) profiles) ∧
      ((inlinedSource properties).get? activeProfilesKey = none →
        memory'.activeProfiles = loaded'.activeProfiles) := by
  let leading : List PropertySource := [⟨"overrides", overrides⟩]
  have memory : load files [] overrides = .ok (ofLeading [] leading []) :=
    assemble_of_lacks (by simp) leading []
  have loaded : load files folders overrides = .ok (ofLeading folders leading []) :=
    assemble_of_lacks lacks leading []
  obtain ⟨memory', inMemory, values, active⟩ :=
    withInlined_ofLeading_nil files leading [] properties profiles
  have anew := withInlined_ofLeading filled lacks leading [] properties profiles
  have listed := listedWith_ofLeading [] leading [] properties
  have agrees : memory'.activeProfiles =
      (ofLeading folders (inlinedSource properties :: leading) profiles).activeProfiles ↔
        addMissing ((ofLeading [] leading []).listedWith properties)
            (ofLeading [] leading []).activeProfiles <+:
          addMissing ((ofLeading [] leading []).listedWith properties) profiles := by
    rw [active, ← addMissing_eq_iff, listed]
    rfl
  refine ⟨_, _, memory', _, memory, loaded, inMemory, anew, fun key => ?_, agrees, ?_⟩
  · rw [values, get?_ofLeading]
  · intro unlisted
    -- What is listed is active already.
    have same : (ofLeading [] leading []).listedWith properties =
        (ofLeading [] leading []).activeProfiles :=
      listed.trans (listedWith_of_unlisted unlisted leading)
    rw [agrees, same, addMissing_of_subset (List.Subset.refl _)]
    exact prefix_addMissing _ profiles

end Environment

/-! ### Profiles that are listed anew -/

namespace Sample

open Environment

/-- A folder of resources without property files. There is nothing to be read in it. -/
def plainFolder : FileTree where
  entries := [(["res"], .folder)]

theorem lacksPropertyFiles_plainFolder (folder : String) :
    LacksPropertyFiles plainFolder folder := by
  have nothing (path : String) : plainFolder.isFile path = false :=
    FileTree.isFile_eq_false_of_folders (by simp [plainFolder]) path
  exact ⟨nothing _, fun _ => nothing _⟩

/-- The overriding property lists the profile `first`, and the inlined one the profile `second`
instead: in memory both are active, from a folder only the second one is. -/
theorem not_withInlined_agrees_listedAnew :
    let derived (folders : List String) : Except UnreadableFile (List String) := do
      let env ← load plainFolder folders [("spring.profiles.active", "first")]
      let env ← env.withInlined plainFolder ["spring.profiles.active=second"] []
      return env.activeProfiles
    (∀ folder ∈ ["res"], LacksPropertyFiles plainFolder folder) ∧
      derived [] = .ok ["second", "first"] ∧ derived ["res"] = .ok ["second"] :=
  ⟨fun folder _ => lacksPropertyFiles_plainFolder folder, by decide, by decide⟩

end Sample

/-- The profile that the inlined property takes away is asked for again, and both ways agree. The
condition of the theorem holds, though the inlined properties list a profile. -/
theorem Environment.withInlined_agrees_iff_plainFolder :
    let overrides := [("spring.profiles.active", "first")]
    let inlined := ["spring.profiles.active=second"]
    ["res"] ≠ [] ∧ (∀ folder ∈ ["res"], LacksPropertyFiles Sample.plainFolder folder) ∧
    ∃ memory loaded memory' loaded' : Environment,
      load Sample.plainFolder [] overrides = .ok memory ∧
      load Sample.plainFolder ["res"] overrides = .ok loaded ∧
      memory.withInlined Sample.plainFolder inlined ["first", "it"] = .ok memory' ∧
      loaded.withInlined Sample.plainFolder inlined ["first", "it"] = .ok loaded' ∧
      memory'.get? "spring.profiles.active" = loaded'.get? "spring.profiles.active" ∧
      memory'.activeProfiles = loaded'.activeProfiles := by
  have lacks : ∀ folder ∈ ["res"], LacksPropertyFiles Sample.plainFolder folder :=
    fun folder _ => Sample.lacksPropertyFiles_plainFolder folder
  obtain ⟨memory, loaded, memory', loaded', first, second, inMemory, anew, values, agrees, -⟩ :=
    withInlined_agrees_iff (by decide : ["res"] ≠ []) lacks
      [("spring.profiles.active", "first")] ["spring.profiles.active=second"] ["first", "it"]
  refine ⟨by decide, lacks, memory, loaded, memory', loaded', first, second, inMemory, anew,
    values _, agrees.2 ?_⟩
  -- The environment in memory is the one that is computed.
  have computed : load Sample.plainFolder [] [("spring.profiles.active", "first")] =
      .ok ⟨[⟨"overrides", [("spring.profiles.active", "first")]⟩], ["first"],
        [⟨"overrides", [("spring.profiles.active", "first")]⟩], []⟩ := by
    decide
  obtain rfl := Except.ok.inj (computed.symm.trans first)
  decide

end StaticWiring
