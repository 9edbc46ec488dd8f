import StaticWiring.Environment.Load
import StaticWiring.Proofs.Lists

/-!
# Reading property files

Property files of one name are read folder by folder, and a folder without such a file contributes
nothing. Reading succeeds where every file that is there holds a text.

## Main definitions

* `Environment.IsReadable` — a file at a path, if there is one, holds a text.
* `Environment.sourcesAt` — the sources of the files of one name.

## Main results

* `FileTree.isFile_eq_false_of_folders`, `FileTree.exists_text_of_isFile` — files of trees that hold
  folders only, or folders and texts.
* `Environment.readSources_of_readable`, `Environment.readProfiles_of_readable` — what is read.
* `Environment.isReadable_of_readSources`, `Environment.isReadable_of_readProfiles` — what is read
  holds texts.
* `Environment.readSources_of_absent`, `Environment.readProfiles_of_absent` — without files, nothing
  is read.
-/

namespace StaticWiring

/-! ### Trees -/

/-- What stands at a path is a folder or an entry of the tree. A folder may be implied by what
stands in it. -/
theorem FileTree.mem_entries_of_entry? {tree : FileTree} {path : String} {entry : Entry}
    (found : tree.entry? path = some entry) :
    entry = .folder ∨ ∃ place, (place, entry) ∈ tree.entries := by
  obtain ⟨place, -, found⟩ := Option.bind_eq_some_iff.1 found
  unfold entryAt? at found
  split at found
  · exact .inl (Option.some.inj found).symm
  · obtain ⟨before, after, split, -⟩ := List.lookup_eq_some_iff.1 found
    exact .inr ⟨place, split ▸ List.mem_append_right _ List.mem_cons_self⟩

/-- Where everything is a folder, no path leads to a file. It holds of trees that are made of
folders only. -/
theorem FileTree.isFile_eq_false_of_folders {tree : FileTree}
    (folders : ∀ entry ∈ tree.entries, entry.2 = .folder) (path : String) :
    tree.isFile path = false := by
  unfold isFile
  split
  · next content found =>
    obtain folder | ⟨place, member⟩ := mem_entries_of_entry? found
    · cases folder
    · cases folders _ member
  · rfl

/-- Where every file holds a text, a path that leads to a file leads to a text. Reading such a tree
cannot fail. -/
theorem FileTree.exists_text_of_isFile {tree : FileTree}
    (texts : ∀ entry ∈ tree.entries, ∀ bytes, entry.2 ≠ .file (.binary bytes)) {path : String}
    (file : tree.isFile path = true) : ∃ content, tree.text? path = some content := by
  unfold isFile at file
  split at file
  · next content found =>
    obtain folder | ⟨place, member⟩ := mem_entries_of_entry? found
    · cases folder
    · cases content with
      | text content => exact ⟨content, by rw [text?, found]⟩
      | binary bytes => exact (texts _ member bytes rfl).elim
  · cases file

/-- Only a file holds a text. Folders and bytes that are no text have none. -/
theorem FileTree.isFile_of_text? {tree : FileTree} {path content : String}
    (h : tree.text? path = some content) : tree.isFile path = true := by
  unfold text? at h
  split at h
  · next found => rw [isFile, found]
  · cases h

namespace Environment

variable {files : FileTree} {folders : List String} {fileName : String}

/-! ### Files of one name -/

/-- If a file stands at the path, it holds a text. A path to nothing is no obstacle. -/
def IsReadable (files : FileTree) (path : String) : Prop :=
  files.isFile path = true → ∃ content, files.text? path = some content

/-- The sources of the files of one name, folder by folder. Folders without such a file contribute
none. -/
def sourcesAt (files : FileTree) (folders : List String) (fileName : String) :
    List PropertySource :=
  folders.filterMap fun folder =>
    let path := FileTree.Path.join folder fileName
    (files.text? path).map fun content => ⟨path, Properties.parse content⟩

theorem readSource_of_readable {path : String} (readable : IsReadable files path) :
    readSource files path =
      .ok ((files.text? path).map fun content => ⟨path, Properties.parse content⟩) := by
  unfold readSource
  split
  · next file =>
    obtain ⟨content, found⟩ := readable file
    rw [found]
    rfl
  · next absent =>
    have nothing : files.text? path = none :=
      Option.eq_none_iff_forall_ne_some.2 fun _ found =>
        absent (FileTree.isFile_of_text? found)
    rw [nothing]
    rfl

/-- A file that is read holds a text. It is so whether something was found or not. -/
theorem isReadable_of_readSource {path : String} {found : Option PropertySource}
    (read : readSource files path = .ok found) : IsReadable files path := by
  intro file
  rw [readSource, if_pos file] at read
  split at read
  · next content text => exact ⟨content, text⟩
  · cases read

theorem isReadable_of_readSources {sources : List PropertySource}
    (read : readSources files folders fileName = .ok sources) :
    ∀ folder ∈ folders, IsReadable files (FileTree.Path.join folder fileName) := by
  rw [readSources] at read
  cases each : folders.mapM fun folder => readSource files (FileTree.Path.join folder fileName) with
  | error e =>
    rw [each] at read
    cases read
  | ok found =>
    intro folder member
    obtain ⟨source, read⟩ := Lists.exists_ok_of_mapM each folder member
    exact isReadable_of_readSource read

/-- The files of one name are read where they hold texts. The folders are gone through in order, and
none of them fails. -/
theorem readSources_of_readable
    (readable : ∀ folder ∈ folders, IsReadable files (FileTree.Path.join folder fileName)) :
    readSources files folders fileName = .ok (sourcesAt files folders fileName) := by
  have each := Lists.mapM_of_ok fun folder member => readSource_of_readable (readable folder member)
  rw [readSources, each]
  simp [bind, Except.bind, pure, Except.pure, sourcesAt, List.filterMap_map]

/-- Without files of the name, nothing is read. The paths lead to nothing or to folders. -/
theorem sourcesAt_of_absent
    (absent : ∀ folder ∈ folders, files.isFile (FileTree.Path.join folder fileName) = false) :
    sourcesAt files folders fileName = [] := by
  refine List.filterMap_eq_nil_iff.2 fun folder member => Option.map_eq_none_iff.2 ?_
  refine Option.eq_none_iff_forall_ne_some.2 fun content found => ?_
  have file := FileTree.isFile_of_text? found
  rw [absent folder member] at file
  cases file

theorem readSources_of_absent
    (absent : ∀ folder ∈ folders, files.isFile (FileTree.Path.join folder fileName) = false) :
    readSources files folders fileName = .ok [] := by
  rw [readSources_of_readable, sourcesAt_of_absent absent]
  intro folder member file
  rw [absent folder member] at file
  cases file

/-! ### Files of profiles -/

/-- The files of profiles are read where they hold texts, those of the last profile first. Later
profiles take precedence by coming first. -/
theorem readProfiles_of_readable (profiles : List String)
    (readable : ∀ profile ∈ profiles, ∀ folder ∈ folders,
      IsReadable files (FileTree.Path.join folder (profileFile profile))) :
    readProfiles files folders profiles =
      .ok (profiles.reverse.flatMap fun profile =>
        sourcesAt files folders (profileFile profile)) := by
  have each := Lists.mapM_of_ok fun profile (member : profile ∈ profiles.reverse) =>
    readSources_of_readable (readable profile (List.mem_reverse.1 member))
  rw [readProfiles, each]
  simp [bind, Except.bind, pure, Except.pure, List.flatMap_def]

theorem isReadable_of_readProfiles {profiles : List String} {sources : List PropertySource}
    (read : readProfiles files folders profiles = .ok sources) :
    ∀ profile ∈ profiles, ∀ folder ∈ folders,
      IsReadable files (FileTree.Path.join folder (profileFile profile)) := by
  rw [readProfiles] at read
  cases each : profiles.reverse.mapM fun p => readSources files folders (profileFile p) with
  | error e =>
    rw [each] at read
    cases read
  | ok found =>
    intro profile member
    obtain ⟨sources, read⟩ :=
      Lists.exists_ok_of_mapM each profile (List.mem_reverse.2 member)
    exact isReadable_of_readSources read

theorem readProfiles_of_absent {profiles : List String}
    (absent : ∀ profile, ∀ folder ∈ folders,
      files.isFile (FileTree.Path.join folder (profileFile profile)) = false) :
    readProfiles files folders profiles = .ok [] := by
  rw [readProfiles_of_readable]
  · simp [sourcesAt_of_absent (absent _)]
  · intro profile _ folder member file
    rw [absent profile folder member] at file
    cases file

end Environment

end StaticWiring
