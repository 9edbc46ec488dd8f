import StaticWiring.Proofs.Environment.Precedence

/-!
# Environments derived again and again

Inlined properties and requested profiles are put on top of an environment any number of times. An
environment in memory keeps its active profiles. One that is read from folders is assembled anew
every time: the profiles that its properties list without the files of profiles are found again, and
those that were only asked for before are forgotten.

## Main definitions

* `Environment.IsObtained` — environments from sources or from files, with inlined properties.
* `Environment.Stands` — what is known of such an environment, however it was obtained.
* `Environment.Remembers` — an active profile is found again.

## Main results

* `Environment.addMissing_addMissing` — profiles that are added again make no difference.
* `Environment.IsObtained.stands` — every derivation keeps what is known.
* `Environment.withInlined_keeps_iff` — which profiles stay active.
-/

namespace StaticWiring

namespace Environment

variable {files : FileTree} {env env' : Environment}
  {listed requested profiles properties : List String} {profile : String}

/-! ### Profiles that are added again -/

theorem mem_addMissing :
    profile ∈ addMissing listed requested ↔ profile ∈ listed ∨ profile ∈ requested := by
  rw [addMissing_eq, List.mem_append, List.mem_eraseDups, List.mem_filter]
  by_cases member : profile ∈ listed <;> simp [member]

theorem addMissing_append (active profiles more : List String) :
    addMissing active (profiles ++ more) = addMissing (addMissing active profiles) more :=
  List.foldl_append

/-- New profiles that are all different are added as they stand. It spares the search for
repetitions. -/
theorem addMissing_of_nodup (different : profiles.Nodup)
    (new : ∀ profile ∈ profiles, profile ∉ listed) :
    addMissing listed profiles = listed ++ profiles := by
  induction profiles generalizing listed with
  | nil => exact (List.append_nil listed).symm
  | cons profile profiles ih =>
    obtain ⟨first, others⟩ := List.forall_mem_cons.1 new
    obtain ⟨apart, different⟩ := List.nodup_cons.1 different
    rw [addMissing_cons_of_not_mem first, ih different, List.append_assoc, List.singleton_append]
    intro other member
    rw [List.mem_append, List.mem_singleton, not_or]
    exact ⟨others other member, ne_of_mem_of_not_mem member apart⟩

theorem addMissing_addMissing (listed requested : List String) :
    addMissing listed (addMissing listed requested) = addMissing listed requested := by
  have new : ∀ profile ∈ (requested.filter (!listed.contains ·)).eraseDups, profile ∉ listed := by
    intro profile member
    simpa using (List.mem_filter.1 (List.mem_eraseDups.1 member)).2
  rw [addMissing_eq listed requested, addMissing_append,
    addMissing_of_subset (List.Subset.refl listed),
    addMissing_of_nodup (Lists.nodup_eraseDups _) new]

/-! ### Environments that are obtained -/

/-- The environments that are made of sources or read from files, and what is derived from these.
Derivations may be repeated, and each may fail if files cannot be read. -/
inductive IsObtained (files : FileTree) : Environment → Prop
  /-- An environment in memory. -/
  | ofSources (sources : List PropertySource) : IsObtained files (ofSources sources)
  /-- The environment of an application. -/
  | load {folders : List String} {overrides : List (String × String)} {env : Environment}
    (loaded : load files folders overrides = .ok env) : IsObtained files env
  /-- An environment with further properties and profiles. -/
  | withInlined {env env' : Environment} {properties profiles : List String}
    (obtained : IsObtained files env)
    (derived : env.withInlined files properties profiles = .ok env') : IsObtained files env'

/-- What is known of an environment that was obtained in one way or another. It is the invariant of
derivations: the active profiles are told by what is stored. -/
inductive Stands (files : FileTree) (env : Environment) : Prop
  /-- In memory, profiles that were asked for follow those that the sources list. -/
  | memory (requested : List String) (unfiled : env.folders = [])
    (active : env.activeProfiles = addMissing (ofSources env.sources).activeProfiles requested)
  /-- With folders, the environment is assembled from what it has stored. -/
  | assembled (requested : List String) (filed : env.folders ≠ [])
    (assembled : assemble files env.folders env.leading requested = .ok env)

theorem withInlined_of_memory (unfiled : env.folders = []) (files : FileTree)
    (properties profiles : List String) :
    env.withInlined files properties profiles =
      .ok (((ofSources (inlinedSource properties :: env.sources)).activate
        env.activeProfiles).activate profiles) := by
  rw [withInlined, unfiled]
  rfl

theorem withInlined_of_filed (filed : env.folders ≠ []) (files : FileTree)
    (properties profiles : List String) :
    env.withInlined files properties profiles =
      assemble files env.folders (inlinedSource properties :: env.leading) profiles := by
  have nonempty : env.folders.isEmpty = false := by simpa using filed
  rw [withInlined, nonempty]
  rfl

/-- An assembled environment is known, be it with or without folders. Without folders it is one in
memory. -/
theorem stands_of_assemble {folders : List String} {leading : List PropertySource}
    (assembled : assemble files folders leading requested = .ok env) : Stands files env := by
  by_cases unfiled : folders = []
  · subst unfiled
    have memory : assemble files [] leading requested = .ok (ofLeading [] leading requested) :=
      assemble_of_lacks (by simp) leading requested
    obtain rfl := Except.ok.inj (memory.symm.trans assembled)
    refine .memory requested rfl ?_
    have same := activeProfiles_ofSources_congr (findSome?_get?_filter leading)
    exact congrArg (addMissing · requested) same.symm
  · have known := isAssembled_of_assemble assembled
    rw [← known.folders_eq, ← known.leading_eq] at assembled
    exact .assembled requested (known.folders_eq ▸ unfiled) assembled

/-- A derivation keeps what is known. It is the step of the induction over derivations. -/
theorem Stands.withInlined (h : Stands files env)
    (derived : env.withInlined files properties profiles = .ok env') : Stands files env' := by
  cases h with
  | memory requested unfiled active =>
    rw [withInlined_of_memory unfiled] at derived
    obtain rfl := Except.ok.inj derived
    exact .memory (env.activeProfiles ++ profiles) rfl (addMissing_append _ _ _).symm
  | assembled requested filed _ =>
    rw [withInlined_of_filed filed] at derived
    exact stands_of_assemble derived

theorem IsObtained.stands (h : IsObtained files env) : Stands files env := by
  induction h with
  | ofSources sources => exact .memory [] rfl rfl
  | load loaded => exact stands_of_assemble loaded
  | withInlined _ derived ih => exact ih.withInlined derived

/-! ### Profiles that stay active -/

/-- The profiles that the properties of an environment with folders list, without the files of
profiles. -/
def listedInBase (files : FileTree) (env : Environment) : List String :=
  profilesIn (env.leading.map PropertySource.entries ++ baseLayers files env.folders)

/-- The environment is in memory, or its properties list the profile. Only a profile that is
remembered is active again after a derivation. -/
def Remembers (files : FileTree) (env : Environment) (profile : String) : Prop :=
  env.folders = [] ∨ profile ∈ env.listedInBase files

theorem activeProfiles_of_assembled
    (assembled : assemble files env.folders env.leading requested = .ok env) :
    env.activeProfiles = addMissing (env.listedInBase files) requested :=
  (isAssembled_of_assemble assembled).activeProfiles_eq

/-- Inlined properties that list no profiles do not change which ones are listed. Those listed in
files were listed before, too. -/
theorem assembledProfiles_of_unlisted
    (unlisted : (inlinedSource properties).get? activeProfilesKey = none) :
    assembledProfiles files env.folders (inlinedSource properties :: env.leading) profiles =
      addMissing (env.listedInBase files) profiles := by
  rw [assembledProfiles, ← profilesIn_base, List.cons_append, listedWith_of_unlisted unlisted,
    profilesIn_base, listedInBase]

/-- A derivation succeeds if and only if the files of the requested profiles can be read. The files
without profile were read before, and those of remembered profiles as well. -/
theorem Stands.exists_withInlined_iff (h : Stands files env)
    (unlisted : (inlinedSource properties).get? activeProfilesKey = none) :
    (∃ env', env.withInlined files properties profiles = .ok env') ↔
      ∀ profile ∈ profiles, ∀ folder ∈ env.folders,
        IsReadable files (FileTree.Path.join folder (profileFile profile)) := by
  cases h with
  | memory requested unfiled active =>
    rw [withInlined_of_memory unfiled, unfiled]
    simp
  | assembled requested filed assembled =>
    -- The base files and those of the profiles so far were read when the environment was made.
    have before : CanRead files env.folders (addMissing (env.listedInBase files) requested) :=
      canRead_of_assemble assembled
    rw [withInlined_of_filed filed]
    constructor
    · rintro ⟨env', derived⟩ profile member
      have after := canRead_of_assemble derived
      rw [assembledProfiles_of_unlisted unlisted] at after
      exact after.profiled profile (mem_addMissing.2 (.inr member))
    · intro readable
      have after : CanRead files env.folders (addMissing (env.listedInBase files) profiles) := by
        refine ⟨before.unprofiled, fun profile member => ?_⟩
        rcases mem_addMissing.1 member with member | member
        · exact before.profiled profile (mem_addMissing.2 (.inl member))
        · exact readable profile member
      rw [← assembledProfiles_of_unlisted unlisted] at after
      obtain ⟨env', derived, -⟩ := exists_isAssembled_of_canRead after
      exact ⟨env', derived⟩

/-- The active profiles of an environment that is derived in memory. What was active stays, since it
is added again. -/
theorem activeProfiles_of_memory (unfiled : env.folders = [])
    (unlisted : (inlinedSource properties).get? activeProfilesKey = none)
    (derived : env.withInlined files properties profiles = .ok env') :
    env'.activeProfiles =
      addMissing (addMissing (ofSources env.sources).activeProfiles env.activeProfiles)
        profiles := by
  rw [withInlined_of_memory unfiled] at derived
  obtain rfl := Except.ok.inj derived
  rw [← listedWith_of_unlisted unlisted]
  rfl

/-- The active profiles of an environment that is assembled anew. What was active only because it
was asked for is not added again. -/
theorem activeProfiles_of_filed (filed : env.folders ≠ [])
    (unlisted : (inlinedSource properties).get? activeProfilesKey = none)
    (derived : env.withInlined files properties profiles = .ok env') :
    env'.activeProfiles = addMissing (env.listedInBase files) profiles := by
  rw [withInlined_of_filed filed] at derived
  exact (isAssembled_of_assemble derived).activeProfiles_eq.trans
    (assembledProfiles_of_unlisted unlisted)

/-- After a derivation, the profiles that are remembered and those that are requested are active.
The two cases of environments agree in this form. -/
theorem Stands.mem_activeProfiles_iff (h : Stands files env)
    (unlisted : (inlinedSource properties).get? activeProfilesKey = none)
    (derived : env.withInlined files properties profiles = .ok env') :
    profile ∈ env'.activeProfiles ↔
      profile ∈ env.activeProfiles ∧ env.Remembers files profile ∨ profile ∈ profiles := by
  cases h with
  | memory requested unfiled active =>
    have within : profile ∈ (ofSources env.sources).activeProfiles →
        profile ∈ env.activeProfiles := by
      rw [active]
      exact fun member => mem_addMissing.2 (.inl member)
    rw [activeProfiles_of_memory unfiled unlisted derived, mem_addMissing, mem_addMissing,
      or_iff_right_of_imp within, and_iff_left (.inl unfiled)]
  | assembled requested filed assembled =>
    have active := activeProfiles_of_assembled assembled
    have within : profile ∈ env.listedInBase files → profile ∈ env.activeProfiles := by
      rw [active]
      exact fun member => mem_addMissing.2 (.inl member)
    rw [activeProfiles_of_filed filed unlisted derived, mem_addMissing, Remembers,
      or_iff_right filed, and_iff_right_of_imp within]

/-- A derivation with nothing new keeps the active profiles if it finds all of them again. It is
enough that none is forgotten, because the order comes out the same. -/
theorem Stands.activeProfiles_eq_iff (h : Stands files env)
    (derived : env.withInlined files [] [] = .ok env') :
    env'.activeProfiles = env.activeProfiles ↔
      ∀ profile ∈ env.activeProfiles, env.Remembers files profile := by
  cases h with
  | memory requested unfiled active =>
    refine iff_of_true ?_ fun profile _ => .inl unfiled
    rw [activeProfiles_of_memory unfiled rfl derived, active]
    exact addMissing_addMissing _ requested
  | assembled requested filed assembled =>
    have active := activeProfiles_of_assembled assembled
    have remembers (profile : String) :
        env.Remembers files profile ↔ profile ∈ env.listedInBase files :=
      or_iff_right filed
    have found : env'.activeProfiles = env.listedInBase files :=
      activeProfiles_of_filed filed rfl derived
    simp only [remembers, found]
    constructor
    · intro same profile member
      rwa [same]
    · intro known
      rw [active] at known ⊢
      refine (addMissing_of_subset fun profile member => ?_).symm
      exact known profile (mem_addMissing.2 (.inr member))

/-- A derivation with nothing new keeps all values if it keeps the active profiles. The files that
are read are then the same ones. -/
theorem Stands.get?_eq (h : Stands files env) (derived : env.withInlined files [] [] = .ok env')
    (same : env'.activeProfiles = env.activeProfiles) (key : String) :
    env'.get? key = env.get? key := by
  cases h with
  | memory requested unfiled active =>
    rw [withInlined_of_memory unfiled] at derived
    obtain rfl := Except.ok.inj derived
    rfl
  | assembled requested filed assembled =>
    rw [withInlined_of_filed filed] at derived
    have before := (isAssembled_of_assemble assembled).get?_eq key
    have after := (isAssembled_of_assemble derived).get?_eq key
    rw [before, after, same]
    rfl

/-- An environment that is obtained is derived if the files of the requested profiles can be read.
Where the inlined properties list no profiles, the requested ones are active then, and of those that
were active the ones that the environment remembers: all in memory, and with folders those that its
properties list without the files of profiles. With nothing inlined and requested, a derivation
succeeds, and changes neither the active profiles nor a property if the environment remembers all of
its profiles; otherwise it changes the active ones. -/
theorem withInlined_keeps_iff (obtained : IsObtained files env)
    (unlisted : (inlinedSource properties).get? activeProfilesKey = none)
    (profiles : List String) :
    ((∃ env', env.withInlined files properties profiles = .ok env') ↔
      ∀ profile ∈ profiles, ∀ folder ∈ env.folders,
        IsReadable files (FileTree.Path.join folder (profileFile profile))) ∧
    (∀ env', env.withInlined files properties profiles = .ok env' → ∀ profile,
      profile ∈ env'.activeProfiles ↔
        profile ∈ env.activeProfiles ∧ env.Remembers files profile ∨ profile ∈ profiles) ∧
    ∃ env', env.withInlined files [] [] = .ok env' ∧
      (env'.activeProfiles = env.activeProfiles ↔
        ∀ profile ∈ env.activeProfiles, env.Remembers files profile) ∧
      (env'.activeProfiles = env.activeProfiles → ∀ key, env'.get? key = env.get? key) := by
  have known := obtained.stands
  obtain ⟨same, derived⟩ : ∃ env', env.withInlined files [] [] = .ok env' :=
    (known.exists_withInlined_iff rfl).2 fun _ member => (List.not_mem_nil member).elim
  exact ⟨known.exists_withInlined_iff unlisted,
    fun env' derived _ => known.mem_activeProfiles_iff unlisted derived,
    same, derived, known.activeProfiles_eq_iff derived, known.get?_eq derived⟩

end Environment

/-! ### Profiles that were only asked for -/

namespace Sample

open Environment

/-- The profile `it` is asked for first, and the profile `eu` after it, by an application whose
resources stand in a folder: the first one is forgotten, also if nothing else is asked for. In
memory, both are active. -/
theorem not_withInlined_keeps_askedFor :
    let derived (folders : List String) (requests : List (List String)) :
        Except UnreadableFile (List String) := do
      let env ← load plainFolder folders []
      let env ← requests.foldlM (fun env profiles => env.withInlined plainFolder [] profiles) env
      return env.activeProfiles
    (inlinedSource []).get? activeProfilesKey = none ∧
      derived ["res"] [["it"]] = .ok ["it"] ∧ derived ["res"] [["it"], ["eu"]] = .ok ["eu"] ∧
      derived ["res"] [["it"], []] = .ok [] ∧ derived [] [["it"], ["eu"]] = .ok ["it", "eu"] := by
  decide

/-- An environment whose overriding property lists the profile `cloud`, with the profile `it` that
was asked for. -/
def cloudEnvironment : Environment where
  sources := [⟨"inlined", [("mode", "test")]⟩, ⟨"overrides", [("spring.profiles.active", "cloud")]⟩]
  activeProfiles := ["cloud", "it"]
  leading := [⟨"inlined", [("mode", "test")]⟩, ⟨"overrides", [("spring.profiles.active", "cloud")]⟩]
  folders := ["res"]

theorem isObtained_cloudEnvironment : IsObtained plainFolder cloudEnvironment := by
  let overrides := [("spring.profiles.active", "cloud")]
  have loaded : load plainFolder ["res"] overrides =
      .ok ⟨[⟨"overrides", overrides⟩], ["cloud"], [⟨"overrides", overrides⟩], ["res"]⟩ := by
    decide
  have derived : Environment.withInlined
      ⟨[⟨"overrides", overrides⟩], ["cloud"], [⟨"overrides", overrides⟩], ["res"]⟩ plainFolder
      ["mode=test"] ["it"] = .ok cloudEnvironment := by
    decide
  exact (IsObtained.load loaded).withInlined derived

end Sample

/-- The profile that the overriding property lists is found again, and the one that was asked for
before is not. -/
theorem Environment.withInlined_keeps_iff_cloud :
    IsObtained Sample.plainFolder Sample.cloudEnvironment ∧
    (inlinedSource ["port=80"]).get? activeProfilesKey = none ∧
    ∃ env', Sample.cloudEnvironment.withInlined Sample.plainFolder ["port=80"] ["eu"] = .ok env' ∧
      "cloud" ∈ env'.activeProfiles ∧ "eu" ∈ env'.activeProfiles ∧
        "it" ∉ env'.activeProfiles := by
  have obtained := Sample.isObtained_cloudEnvironment
  have unlisted : (inlinedSource ["port=80"]).get? activeProfilesKey = none := by decide
  obtain ⟨succeeds, active, -⟩ := withInlined_keeps_iff obtained unlisted ["eu"]
  have remembers (profile : String) :
      Sample.cloudEnvironment.Remembers Sample.plainFolder profile ↔ profile ∈ ["cloud"] := by
    have listed : Sample.cloudEnvironment.listedInBase Sample.plainFolder = ["cloud"] := by decide
    rw [Remembers, listed]
    exact or_iff_right (by decide)
  obtain ⟨env', derived⟩ := succeeds.2 fun profile _ folder _ file => by
    rw [(Sample.lacksPropertyFiles_plainFolder folder).profiled profile] at file
    cases file
  refine ⟨obtained, unlisted, env', derived, ?_⟩
  simp only [active env' derived, remembers]
  decide

end StaticWiring
