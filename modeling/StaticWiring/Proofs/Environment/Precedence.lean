import StaticWiring.Proofs.Environment.Inlined

/-!
# Which property counts

The properties of an application come in layers: the entries that are inlined, those that override,
those of the files of its profiles and those of its files without profile, each file a layer of its
own. A key has the value of its last entry in the first layer that has one. Which profiles are
active is decided by the layers without profile alone, so that the files of profiles activate no
further ones.

## Main definitions

* `Environment.valueIn?` — the value of a key in layers of entries.
* `Environment.fileLayers` — the layers of the files of one name.
* `Environment.CanRead` — the files that an environment is assembled from can be read.
* `Environment.IsAssembled` — the profiles and properties of an environment as its layers say them.

## Main results

* `Environment.addMissing_eq` — profiles that are asked for follow the listed ones.
* `Environment.exists_isAssembled_of_canRead`, `Environment.canRead_of_assemble` — environments are
  assembled from files that can be read, and only from these.
* `Environment.withInlined_load` — the layers of an environment with inlined properties.
-/

namespace StaticWiring

/-- A source gives a key the value of the last entry with it. Entries before it are overridden
within the source. -/
theorem PropertySource.get?_eq (source : PropertySource) (key : String) :
    source.get? key = (source.entries.filter (·.1 == key)).getLast?.map Prod.snd := by
  rw [List.getLast?_filter, PropertySource.get?]
  induction source.entries.reverse with
  | nil => rfl
  | cons entry entries ih =>
    rw [List.lookup_cons, List.find?_cons, ih, BEq.comm]
    cases entry.1 == key <;> rfl

namespace Environment

/-! ### Layers -/

/-- The value of a key: that of its last entry in the first layer with such an entry. A layer
without such an entry is passed over. -/
def valueIn? (layers : List (List (String × String))) (key : String) : Option String :=
  layers.findSome? fun entries => (entries.filter (·.1 == key)).getLast?.map Prod.snd

/-- The profiles that the layers list. Only the entry that has precedence counts. -/
def profilesIn (layers : List (List (String × String))) : List String :=
  ((valueIn? layers activeProfilesKey).map Properties.commaSeparated).getD []

/-- The layers of the files of one name, folder by folder. A folder without such a file has no
entries. -/
def fileLayers (files : FileTree) (folders : List String) (fileName : String) :
    List (List (String × String)) :=
  folders.map fun folder =>
    ((files.text? (FileTree.Path.join folder fileName)).map Properties.parse).getD []

/-- The layers of the files of profiles, those of the last profile first. A profile that comes later
takes precedence. -/
def profileLayers (files : FileTree) (folders profiles : List String) :
    List (List (String × String)) :=
  profiles.reverse.flatMap fun profile => fileLayers files folders (profileFile profile)

/-- The layers of the files without profile. They stand below the files of all profiles. -/
def baseLayers (files : FileTree) (folders : List String) : List (List (String × String)) :=
  fileLayers files folders "application.properties"

/-- The property files of the application in the folder can be read, with or without a profile. A
file that is not there can be read in this sense. -/
structure HasReadableFiles (files : FileTree) (folder : String) : Prop where
  /-- The file without a profile can be read. -/
  unprofiled : IsReadable files (FileTree.Path.join folder "application.properties")
  /-- The file of every profile can be read. -/
  profiled : ∀ profile, IsReadable files (FileTree.Path.join folder (profileFile profile))

variable {files : FileTree} {folders : List String}

/-- Sources give a key the value that it has in their entries. A source is a layer with a name. -/
theorem findSome?_get?_eq (sources : List PropertySource) (key : String) :
    sources.findSome? (·.get? key) = valueIn? (sources.map PropertySource.entries) key := by
  rw [valueIn?, List.findSome?_map]
  exact congrArg (sources.findSome? ·) (funext fun source => PropertySource.get?_eq source key)

theorem valueIn?_append (layers layers' : List (List (String × String))) (key : String) :
    valueIn? (layers ++ layers') key = (valueIn? layers key).or (valueIn? layers' key) :=
  List.findSome?_append

theorem valueIn?_cons (entries : List (String × String)) (layers : List (List (String × String)))
    (key : String) :
    valueIn? (entries :: layers) key = (valueIn? [entries] key).or (valueIn? layers key) :=
  valueIn?_append [entries] layers key

/-- Folders without a file of the name make no difference. They have an empty layer, which gives no
value. -/
theorem valueIn?_sourcesAt (files : FileTree) (folders : List String) (fileName key : String) :
    valueIn? ((sourcesAt files folders fileName).map PropertySource.entries) key =
      valueIn? (fileLayers files folders fileName) key := by
  induction folders with
  | nil => rfl
  | cons folder folders ih =>
    rw [fileLayers, List.map_cons, valueIn?_cons]
    cases found : files.text? (FileTree.Path.join folder fileName) with
    | none =>
      rw [sourcesAt, List.filterMap_cons_none (by simp [found])]
      exact ih
    | some content =>
      rw [sourcesAt, List.filterMap_cons_some (by simp [found]; rfl), List.map_cons, valueIn?_cons]
      exact congrArg _ ih

theorem valueIn?_profileSources (files : FileTree) (folders profiles : List String)
    (key : String) :
    valueIn? ((profiles.flatMap fun profile =>
        sourcesAt files folders (profileFile profile)).map PropertySource.entries) key =
      valueIn? (profiles.flatMap fun profile =>
        fileLayers files folders (profileFile profile)) key := by
  induction profiles with
  | nil => rfl
  | cons profile profiles ih =>
    rw [List.flatMap_cons, List.flatMap_cons, List.map_append, valueIn?_append, valueIn?_append,
      valueIn?_sourcesAt, ih]

theorem activeProfiles_ofSources (sources : List PropertySource) :
    (ofSources sources).activeProfiles = profilesIn (sources.map PropertySource.entries) := by
  have value : ({ sources } : Environment).get? activeProfilesKey = _ :=
    findSome?_get?_eq sources activeProfilesKey
  simp only [ofSources, listedProfiles, profilesIn, value]
  cases valueIn? (sources.map PropertySource.entries) activeProfilesKey <;> rfl

/-! ### Profiles that are asked for -/

/-- Profiles that are asked for follow the active ones, each that is not active yet once and where
it is asked for first. -/
theorem addMissing_eq (active profiles : List String) :
    addMissing active profiles =
      active ++ (profiles.filter (!active.contains ·)).eraseDups := by
  induction profiles generalizing active with
  | nil => simp [addMissing]
  | cons profile profiles ih =>
    by_cases member : profile ∈ active
    · rw [addMissing_cons_of_mem member, ih, List.filter_cons_of_neg (by simpa using member)]
    · have further : profiles.filter (!(active ++ [profile]).contains ·) =
          (profiles.filter (!active.contains ·)).filter (!· == profile) := by
        rw [List.filter_filter]
        exact List.filter_congr fun other _ => by simp [Bool.beq_eq_decide_eq, Bool.and_comm]
      rw [addMissing_cons_of_not_mem member, ih, List.filter_cons_of_pos (by simpa using member),
        List.eraseDups_cons, further, List.append_assoc, List.singleton_append]

/-! ### Environments -/

/-- The environment has the profiles and the properties that the layers say: the leading sources,
the files of its active profiles, and the files without profile. -/
structure IsAssembled (files : FileTree) (folders : List String) (leading : List PropertySource)
    (profiles : List String) (env : Environment) : Prop where
  /-- The leading sources are kept. -/
  leading_eq : env.leading = leading
  /-- The folders are kept. -/
  folders_eq : env.folders = folders
  /-- The active profiles are those that the layers without profile list, and then those asked
  for. -/
  activeProfiles_eq : env.activeProfiles =
    addMissing (profilesIn (leading.map PropertySource.entries ++ baseLayers files folders))
      profiles
  /-- A property has its value in the layers. -/
  get?_eq : ∀ key, env.get? key =
    valueIn? (leading.map PropertySource.entries ++
      profileLayers files folders env.activeProfiles ++ baseLayers files folders) key

/-- The layers of leading sources and of files list the profiles that their sources do. Sources
without entries were left out, which makes no difference. -/
theorem profilesIn_base (leading : List PropertySource) :
    (ofSources (leading ++ sourcesAt files folders "application.properties")).activeProfiles =
      profilesIn (leading.map PropertySource.entries ++ baseLayers files folders) := by
  rw [activeProfiles_ofSources, List.map_append]
  simp only [profilesIn, valueIn?_append, valueIn?_sourcesAt, baseLayers]

/-- The property files without profile and those of the profiles can be read. Files of profiles that
are not active are not read. -/
structure CanRead (files : FileTree) (folders profiles : List String) : Prop where
  /-- The files without profile can be read. -/
  unprofiled : ∀ folder ∈ folders,
    IsReadable files (FileTree.Path.join folder "application.properties")
  /-- The files of the profiles can be read. -/
  profiled : ∀ profile ∈ profiles, ∀ folder ∈ folders,
    IsReadable files (FileTree.Path.join folder (profileFile profile))

section Assembling

variable {leading : List PropertySource} {profiles : List String}

/-- The profiles of the environment that leading sources and files are assembled to. The files of
profiles have no part in it. -/
def assembledProfiles (files : FileTree) (folders : List String) (leading : List PropertySource)
    (profiles : List String) : List String :=
  addMissing (profilesIn (leading.map PropertySource.entries ++ baseLayers files folders)) profiles

theorem activate_base :
    ((ofSources (leading ++ sourcesAt files folders "application.properties")).activate
      profiles).activeProfiles = assembledProfiles files folders leading profiles := by
  rw [assembledProfiles, ← profilesIn_base]
  rfl

/-- Where the files can be read, an environment is assembled from its layers. Nothing else can make
the assembly fail. -/
theorem exists_isAssembled_of_canRead
    (readable : CanRead files folders (assembledProfiles files folders leading profiles)) :
    ∃ env, assemble files folders leading profiles = .ok env ∧
      IsAssembled files folders leading profiles env := by
  have base := readSources_of_readable readable.unprofiled
  have profiled := readProfiles_of_readable _ readable.profiled
  rw [assemble, base]
  simp only [bind, Except.bind, pure, Except.pure, activate_base, profiled]
  refine ⟨_, rfl, rfl, rfl, rfl, fun key => ?_⟩
  have dropped := findSome?_get?_filter
  simp only [get?, dropped, findSome?_get?_eq, List.map_append, valueIn?_append,
    valueIn?_profileSources, valueIn?_sourcesAt, profileLayers, baseLayers]

/-- An environment is assembled from files that can be read only. It is the converse, so that both
together tell when it fails. -/
theorem canRead_of_assemble {env : Environment}
    (assembled : assemble files folders leading profiles = .ok env) :
    CanRead files folders (assembledProfiles files folders leading profiles) := by
  rw [assemble] at assembled
  cases base : readSources files folders "application.properties" with
  | error e =>
    rw [base] at assembled
    cases assembled
  | ok sources =>
    have unprofiled := isReadable_of_readSources base
    obtain rfl := Except.ok.inj (base.symm.trans (readSources_of_readable unprofiled))
    rw [base] at assembled
    simp only [bind, Except.bind, activate_base] at assembled
    cases profiled : readProfiles files folders
        (assembledProfiles files folders leading profiles) with
    | error e =>
      rw [profiled] at assembled
      cases assembled
    | ok found => exact ⟨unprofiled, isReadable_of_readProfiles profiled⟩

theorem isAssembled_of_assemble {env : Environment}
    (assembled : assemble files folders leading profiles = .ok env) :
    IsAssembled files folders leading profiles env := by
  obtain ⟨env', assembled', isAssembled⟩ :=
    exists_isAssembled_of_canRead (canRead_of_assemble assembled)
  obtain rfl := Except.ok.inj (assembled.symm.trans assembled')
  exact isAssembled

end Assembling

theorem exists_isAssembled (readable : ∀ folder ∈ folders, HasReadableFiles files folder)
    (leading : List PropertySource) (profiles : List String) :
    ∃ env, assemble files folders leading profiles = .ok env ∧
      IsAssembled files folders leading profiles env :=
  exists_isAssembled_of_canRead
    ⟨fun folder member => (readable folder member).unprofiled,
      fun profile _ folder member => (readable folder member).profiled profile⟩

/-- An environment of folders whose property files can be read is loaded and derived with inlined
properties. Its profiles are those that the inlined entries, the overriding ones and the files
without profile list, and then those asked for that are not among these. Its properties are those of
the inlined entries, the overriding ones, the files of the active profiles from the last to the
first, and the files without profile. -/
theorem withInlined_load (filled : folders ≠ [])
    (readable : ∀ folder ∈ folders, HasReadableFiles files folder)
    (overrides : List (String × String)) (properties profiles : List String) :
    ∃ loaded env : Environment,
      load files folders overrides = .ok loaded ∧
      loaded.withInlined files properties profiles = .ok env ∧
      let leading := [properties.map inlinedEntry, overrides]
      let listed := profilesIn (leading ++ baseLayers files folders)
      env.activeProfiles = listed ++ (profiles.filter (!listed.contains ·)).eraseDups ∧
      ∀ key, env.get? key =
        valueIn? (leading ++ profileLayers files folders env.activeProfiles ++
          baseLayers files folders) key := by
  obtain ⟨loaded, first, isLoaded⟩ := exists_isAssembled readable [⟨"overrides", overrides⟩] []
  obtain ⟨env, second, isDerived⟩ :=
    exists_isAssembled readable [inlinedSource properties, ⟨"overrides", overrides⟩] profiles
  have derived : loaded.withInlined files properties profiles = .ok env := by
    have nonempty : loaded.folders.isEmpty = false := by
      rw [isLoaded.folders_eq]
      simpa using filled
    rw [withInlined, nonempty, isLoaded.leading_eq, isLoaded.folders_eq]
    exact second
  refine ⟨loaded, env, first, derived, ?_, isDerived.get?_eq⟩
  rw [← addMissing_eq]
  exact isDerived.activeProfiles_eq

end Environment

/-! ### Two folders with files of profiles -/

namespace Sample

open Environment

/-- Two folders with property files, the first of them with files of two profiles as well. The
second folder repeats a key in its file. -/
def profileFolders : FileTree where
  entries := [
    (["first"], .folder),
    (["first", "application-dev.properties"],
      .file (.text "port=9000\nspring.profiles.active=other\n")),
    (["first", "application-it.properties"], .file (.text "port=9100\n")),
    (["first", "application.properties"],
      .file (.text "spring.profiles.active=dev\nport=8080\nname=base\n")),
    (["second"], .folder),
    (["second", "application.properties"], .file (.text "zone=north\nzone=south\n"))]

theorem hasReadableFiles_profileFolders (folder : String) :
    HasReadableFiles profileFolders folder := by
  have readable (path : String) : IsReadable profileFolders path :=
    FileTree.exists_text_of_isFile (by simp [profileFolders])
  exact ⟨readable _, fun _ => readable _⟩

end Sample

/-- The file of a profile lists a further profile in vain, and the file of the profile that is asked
for stands above it. -/
theorem Environment.withInlined_load_profileFolders :
    let folders := ["first", "second"]
    folders ≠ [] ∧ (∀ folder ∈ folders, HasReadableFiles Sample.profileFolders folder) ∧
    ∃ loaded env : Environment,
      load Sample.profileFolders folders [("name", "given")] = .ok loaded ∧
      loaded.withInlined Sample.profileFolders ["mode=test"] ["it", "dev"] = .ok env ∧
      env.activeProfiles = ["dev", "it"] ∧
      ["port", "name", "zone", "mode", "region"].map env.get? =
        [some "9100", some "given", some "south", some "test", none] := by
  have readable : ∀ folder ∈ ["first", "second"], HasReadableFiles Sample.profileFolders folder :=
    fun folder _ => Sample.hasReadableFiles_profileFolders folder
  obtain ⟨loaded, env, first, second, active, values⟩ :=
    withInlined_load (by decide : ["first", "second"] ≠ []) readable [("name", "given")]
      ["mode=test"] ["it", "dev"]
  have listed : env.activeProfiles = ["dev", "it"] := by
    rw [active]
    decide +kernel
  refine ⟨by decide, readable, loaded, env, first, second, listed, ?_⟩
  rw [funext values, listed]
  decide +kernel

end StaticWiring
