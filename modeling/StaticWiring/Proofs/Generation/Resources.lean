import StaticWiring.Generation
import StaticWiring.Proofs.NativeConfig.Compiled
import StaticWiring.Proofs.Text.Lines
import StaticWiring.Regex.Engine

/-!
# The resource files of an application

Every file of a resource folder is kept for the native image: its path becomes a pattern, unless a
broad pattern covers it already. Files that configure native images themselves are no resources and
are passed over. They are told by the beginning of their paths, compared as texts, so that also
files beside the folder of this configuration are passed over if their own name, or that of their
folder, only begins like its name.

A request takes no pattern back, so that what is registered or covered at some time stays so,
whatever files come later.

## Main definitions

* `NativeConfig.Registers` — a path is a pattern, or a broad pattern covers it.
* `Build.HasResource` — a file of a resource folder, by the names that lead to it.
* `Build.IsNativeImageFile` — a file inside the folder of native image configuration.
* `Build.IsPassedOver` — the path begins like the paths of these files.

## Main results

* `CompiledConfig.registers_addResources`, `CompiledConfig.of_mem_patterns_addResources` — what
  single resources add.
* `Build.isPassedOver_iff` — the files that are passed over, by their names.
* `Build.resources_registered_iff` — the files that are registered, and those that are not.
-/

namespace StaticWiring

/-! ### Single resources -/

variable {engine : RegexEngine}

/-- The path is a pattern of the configuration, or a broad pattern of it covers the path, as the
engine reads the patterns. -/
def NativeConfig.Registers (config : NativeConfig) (engine : RegexEngine) (path : String) : Prop :=
  path ∈ config.patterns ∨ config.covers engine path = true

namespace CompiledConfig

variable {c : CompiledConfig engine} {path pattern : String}

theorem subset_patterns_addResource (c : CompiledConfig engine) (path : String) :
    c.config.patterns ⊆ (c.addResource path).2.config.patterns :=
  fun _ member => mem_patterns_addResource_iff.2 (.inl member)

theorem registers_addResource (h : c.IsCompiled) (path : String) :
    (c.addResource path).2.config.Registers engine path := by
  cases covered : c.covers path with
  | true =>
    rw [covers_eq h] at covered
    exact .inr (NativeConfig.covers_of_subset (subset_patterns_addResource c path) covered)
  | false => exact .inl (mem_patterns_addResource_iff.2 (.inr ⟨rfl, covered⟩))

/-- The configuration with the requests for several single resources. They are made one after the
other, so that earlier ones can cover later ones. -/
def addResources (c : CompiledConfig engine) (paths : List String) : CompiledConfig engine :=
  c.addAll (paths.map .resource)

theorem addResources_cons (c : CompiledConfig engine) (path : String) (paths : List String) :
    c.addResources (path :: paths) = (c.addResource path).2.addResources paths :=
  rfl

theorem subset_patterns_addResources (c : CompiledConfig engine) (paths : List String) :
    c.config.patterns ⊆ (c.addResources paths).config.patterns := by
  induction paths generalizing c with
  | nil => exact List.Subset.refl _
  | cons path paths ih =>
    exact fun pattern member => ih _ (subset_patterns_addResource c path member)

/-- What is requested is registered from then on. It is either a pattern of its own or covered. -/
theorem registers_addResources (h : c.IsCompiled) {paths : List String} (member : path ∈ paths) :
    (c.addResources paths).config.Registers engine path := by
  induction paths generalizing c with
  | nil => cases member
  | cons first paths ih =>
    rw [addResources_cons]
    obtain rfl | later := List.mem_cons.1 member
    · have kept := subset_patterns_addResources (c.addResource path).2 paths
      exact (registers_addResource h path).imp (kept ·) (NativeConfig.covers_of_subset kept)
    · exact ih (isCompiled_addResource h first) later

/-- Nothing becomes a pattern but what is requested and was not covered before. A path that is
covered is left out. -/
theorem of_mem_patterns_addResources (h : c.IsCompiled) {paths : List String}
    (member : pattern ∈ (c.addResources paths).config.patterns) :
    pattern ∈ c.config.patterns ∨
      pattern ∈ paths ∧ c.config.covers engine pattern = false := by
  induction paths generalizing c with
  | nil => exact .inl member
  | cons path paths ih =>
    obtain member | ⟨later, free⟩ := ih (isCompiled_addResource h path) member
    · refine (mem_patterns_addResource_iff.1 member).imp_right ?_
      rintro ⟨rfl, free⟩
      exact ⟨List.mem_cons_self, covers_eq h pattern ▸ free⟩
    · refine .inr ⟨List.mem_cons_of_mem _ later, Bool.eq_false_iff.2 fun covered => ?_⟩
      have kept := subset_patterns_addResource c path
      exact Bool.false_ne_true (free.symm.trans (NativeConfig.covers_of_subset kept covered))

end CompiledConfig

/-! ### Files of resource folders -/

namespace Build

variable {files : FileTree} {folders names : List String}

/-- The path of a file below a resource folder. It is the text of the request, in which no character
is escaped. -/
def resourcePath (names : List String) : String :=
  "/".intercalate names

/-- The names lead from one of the resource folders to a file. Folders themselves are no resources.
-/
def HasResource (files : FileTree) (folders names : List String) : Prop :=
  ∃ folder ∈ folders, files.isFolder folder = true ∧
    ∃ content, (names, content) ∈ files.filesBelow folder

/-- The names lead to a file inside the folder of native image configuration. It is told by the
names, and not by the text of the path. -/
def IsNativeImageFile (names : List String) : Prop :=
  ∃ name inner, names = "META-INF" :: "native-image" :: name :: inner

/-- The path begins with that of the folder of native image configuration, compared as texts. A file
beside the folder may begin in the same way. -/
def IsPassedOver (names : List String) : Prop :=
  Text.startsWith nativeImageStart (resourcePath names) = true

instance (names : List String) : Decidable (IsPassedOver names) :=
  inferInstanceAs (Decidable (_ = true))

theorem toList_resourcePath (names : List String) :
    (resourcePath names).toList = ['/'].intercalate (names.map String.toList) :=
  String.toList_intercalate

theorem isPassedOver_append (rest : String) (inner : List String) :
    IsPassedOver ("META-INF" :: ("native-image" ++ rest) :: inner) := by
  have text : (resourcePath ("META-INF" :: ("native-image" ++ rest) :: inner)).toList =
      nativeImageStart.toList ++ ['/'].intercalate (rest.toList :: inner.map String.toList) := by
    rw [toList_resourcePath, List.map_cons, List.map_cons, String.toList_append,
      List.intercalate_cons_of_ne_nil (List.cons_ne_nil _ _), Text.intercalate_append_cons]
    rfl
  rw [IsPassedOver, Text.startsWith, List.isPrefixOf_iff_prefix, text]
  exact List.prefix_append _ _

/-- A file is passed over if the second name on the way to it, or its own name there, goes on behind
`native-image` in whatever way. -/
theorem isPassedOver_iff (plain : ∀ name ∈ names, '/' ∉ name.toList) :
    IsPassedOver names ↔
      ∃ rest inner, names = "META-INF" :: ("native-image" ++ rest) :: inner := by
  constructor
  · rw [IsPassedOver, Text.startsWith, List.isPrefixOf_iff_prefix, toList_resourcePath]
    rintro ⟨tail, text⟩
    have ne : names.map String.toList ≠ [] := by
      intro none
      simp [none, nativeImageStart] at text
    -- The path is cut at its slashes, the first of which stands in the beginning itself.
    have start : nativeImageStart.toList ++ tail =
        "META-INF".toList ++ '/' :: ("native-image".toList ++ tail) := rfl
    obtain ⟨first, others, -, second⟩ :=
      Text.splitOn_append_of_not_mem (by decide : '/' ∉ "native-image".toList) tail
    have pieces := Text.splitOn_intercalate ne (by simpa using plain)
    rw [← text, start, Text.splitOn_append_cons rfl, second,
      Text.splitOn_of_not_mem (by decide), List.singleton_append] at pieces
    obtain ⟨outer, names, rfl, outerText, pieces⟩ := List.map_eq_cons_iff.1 pieces.symm
    obtain ⟨name, inner, rfl, nameText, -⟩ := List.map_eq_cons_iff.1 pieces
    have named : name = "native-image" ++ String.ofList first := by
      rw [← String.toList_inj, nameText, String.toList_append]
      exact congrArg _ String.toList_ofList.symm
    exact ⟨String.ofList first, inner, by rw [String.toList_inj.1 outerText, named]⟩
  · rintro ⟨rest, inner, rfl⟩
    exact isPassedOver_append rest inner

theorem IsNativeImageFile.isPassedOver (h : IsNativeImageFile names) : IsPassedOver names := by
  obtain ⟨name, inner, rfl⟩ := h
  exact isPassedOver_append "" (name :: inner)

/-- The paths that are requested are those of the files that are not passed over. A file may stand
in several folders and is then requested several times. -/
theorem mem_resourcePaths_iff {path : String} :
    path ∈ folders.flatMap (resourcePaths files) ↔
      ∃ names, HasResource files folders names ∧ ¬ IsPassedOver names ∧
        resourcePath names = path := by
  simp only [List.mem_flatMap, resourcePaths, HasResource, IsPassedOver, resourcePath]
  constructor
  · rintro ⟨folder, listed, member⟩
    split at member
    · next isFolder =>
      simp only [List.mem_filter, List.mem_map, Prod.exists] at member
      obtain ⟨⟨names, content, below, rfl⟩, goesOn⟩ := member
      exact ⟨names, ⟨folder, listed, isFolder, content, below⟩, by simpa using goesOn, rfl⟩
    · cases member
  · rintro ⟨names, ⟨folder, listed, isFolder, content, below⟩, goesOn, rfl⟩
    refine ⟨folder, listed, ?_⟩
    rw [if_pos isFolder]
    simp only [List.mem_filter, List.mem_map, Prod.exists]
    exact ⟨⟨names, content, below, rfl⟩, by simpa using goesOn⟩

/-- After the files of the resource folders, and for every engine, a file outside the folder of
native image configuration is registered, unless it is passed over and neither was its path a
pattern before nor is it covered. Every new pattern is the path of a file that is not passed over
and was not covered before, and for a file inside that folder there is none. What is passed over
besides are the files whose path goes on behind the name of the folder. -/
theorem resources_registered_iff (build : Build) (engine : RegexEngine) (files : FileTree)
    (folders : List String) :
    let after := (build.addResourceFiles engine files folders).config
    (∀ names, HasResource files folders names → ¬ IsNativeImageFile names →
      (after.Registers engine (resourcePath names) ↔
        (IsPassedOver names → resourcePath names ∈ build.config.patterns ∨
          after.covers engine (resourcePath names) = true))) ∧
    (∀ pattern ∈ after.patterns, pattern ∉ build.config.patterns →
      build.config.covers engine pattern = false ∧
      ∃ names, HasResource files folders names ∧ ¬ IsPassedOver names ∧
        resourcePath names = pattern) ∧
    (∀ names, IsNativeImageFile names →
      (resourcePath names ∈ after.patterns ↔ resourcePath names ∈ build.config.patterns)) ∧
    ∀ names, (∀ name ∈ names, '/' ∉ name.toList) →
      (IsPassedOver names ↔
        ∃ rest inner, names = "META-INF" :: ("native-image" ++ rest) :: inner) := by
  intro after
  let compiled := CompiledConfig.ofConfig engine build.config
  have isCompiled : compiled.IsCompiled := CompiledConfig.isCompiled_ofConfig build.config
  have added : after = (compiled.addResources (folders.flatMap (resourcePaths files))).config := rfl
  have fresh (pattern : String) (member : pattern ∈ after.patterns)
      (new : pattern ∉ build.config.patterns) :
      build.config.covers engine pattern = false ∧
      ∃ names, HasResource files folders names ∧ ¬ IsPassedOver names ∧
        resourcePath names = pattern := by
    rw [added] at member
    obtain ⟨requested, free⟩ :=
      (CompiledConfig.of_mem_patterns_addResources isCompiled member).resolve_left new
    exact ⟨free, mem_resourcePaths_iff.1 requested⟩
  -- A path that begins like those of the files inside the folder is no new pattern, whatever file
  -- it belongs to.
  have passed (names : List String) (passedOver : IsPassedOver names) :
      resourcePath names ∈ after.patterns ↔ resourcePath names ∈ build.config.patterns := by
    constructor
    · intro member
      by_contra new
      obtain ⟨-, names', -, goesOn, same⟩ := fresh _ member new
      rw [IsPassedOver, same] at goesOn
      exact goesOn passedOver
    · intro member
      rw [added]
      exact CompiledConfig.subset_patterns_addResources compiled _ member
  refine ⟨fun names held _ => ⟨fun registered passedOver => ?_, fun settled => ?_⟩, fresh,
    fun names inside => passed names inside.isPassedOver, fun names plain => isPassedOver_iff plain⟩
  · exact registered.imp_left (passed names passedOver).1
  · by_cases passedOver : IsPassedOver names
    · exact (settled passedOver).imp_left (passed names passedOver).2
    · rw [added]
      exact CompiledConfig.registers_addResources isCompiled
        (mem_resourcePaths_iff.2 ⟨names, held, passedOver, rfl⟩)

end Build

/-! ### A folder with native image configuration -/

namespace Sample

/-- A page, a style sheet, a file of native image configuration and a file beside its folder. The
last two begin alike, and only one of them stands inside. -/
def resourceFiles : FileTree where
  entries := [
    (["res"], .folder),
    (["res", "META-INF"], .folder),
    (["res", "META-INF", "native-image"], .folder),
    (["res", "META-INF", "native-image", "reflect.json"], .file (.text "")),
    (["res", "META-INF", "native-image.txt"], .file (.text "")),
    (["res", "index.html"], .file (.text "")),
    (["res", "static"], .folder),
    (["res", "static", "site.css"], .file (.text ""))]

/-- A build that keeps all style sheets. A broad pattern thus covers one of the files. -/
def staticBuild : Build where
  classPath := { types := [], nodup_names := List.nodup_nil }
  environment := {}
  config := NativeConfig.addAll {} [.pattern "^static/.*"]

theorem hasResource_resourceFiles {names : List String}
    (below : (names, FileTree.Content.text "") ∈ resourceFiles.filesBelow "res") :
    Build.HasResource resourceFiles ["res"] names :=
  ⟨"res", List.mem_singleton_self _, by decide +kernel, .text "", below⟩

theorem not_isNativeImageFile_of_length {names : List String} (short : names.length < 3) :
    ¬ Build.IsNativeImageFile names := by
  rintro ⟨name, inner, rfl⟩
  simp only [List.length_cons] at short
  omega

/-- The file beside the folder of native image configuration is not registered. It is no file of the
configuration, and is left out all the same. -/
theorem not_registers_besideNativeImage :
    Build.HasResource resourceFiles ["res"] ["META-INF", "native-image.txt"] ∧
      ¬ Build.IsNativeImageFile ["META-INF", "native-image.txt"] ∧
      ¬ (staticBuild.addResourceFiles Regex.engine resourceFiles ["res"]).config.Registers
        Regex.engine "META-INF/native-image.txt" := by
  refine ⟨hasResource_resourceFiles (by decide +kernel),
    not_isNativeImageFile_of_length (by decide), ?_⟩
  rintro (member | covered)
  · exact absurd member (by decide +kernel)
  · exact absurd covered (by decide +kernel)

end Sample

/-- The page is registered and the style sheet is covered. The page is the only new pattern. The
statement for all resources is applied to the four files. -/
theorem Build.resources_registered_iff_resourceFiles :
    let after :=
      (Sample.staticBuild.addResourceFiles Regex.engine Sample.resourceFiles ["res"]).config
    after.Registers Regex.engine "index.html" ∧ after.Registers Regex.engine "static/site.css" ∧
      (∀ pattern ∈ after.patterns, pattern ∉ Sample.staticBuild.config.patterns →
        ∃ names, HasResource Sample.resourceFiles ["res"] names ∧ ¬ IsPassedOver names ∧
          resourcePath names = pattern) ∧
      "META-INF/native-image/reflect.json" ∉ after.patterns ∧
      IsPassedOver ["META-INF", "native-image.txt"] := by
  intro after
  obtain ⟨registered, fresh, inside, passedOver⟩ :=
    resources_registered_iff Sample.staticBuild Regex.engine Sample.resourceFiles ["res"]
  have page := (registered ["index.html"] (Sample.hasResource_resourceFiles (by decide +kernel))
    (Sample.not_isNativeImageFile_of_length (by decide))).2 fun passed =>
      absurd passed (by decide +kernel)
  have sheet := (registered ["static", "site.css"]
    (Sample.hasResource_resourceFiles (by decide +kernel))
    (Sample.not_isNativeImageFile_of_length (by decide))).2 fun passed =>
      absurd passed (by decide +kernel)
  refine ⟨page, sheet, fun pattern member new => (fresh pattern member new).2, ?_, ?_⟩
  · have same := inside ["META-INF", "native-image", "reflect.json"] ⟨_, [], rfl⟩
    exact fun member => absurd (same.1 member) (by decide +kernel)
  · exact (passedOver _ (by decide)).2 ⟨".txt", [], rfl⟩

end StaticWiring
