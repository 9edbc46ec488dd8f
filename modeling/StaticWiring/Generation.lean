import StaticWiring.Build
import StaticWiring.NativeConfig.Compiled
import StaticWiring.NativeConfig.Descriptor

/-!
# Generation

One run generates the code of one source set: it loads the build, runs the contributors, requests
the resources of the application for the native image, and writes the sources, the resources and the
descriptors. A run that fails leaves the files that it has written before.

## Main definitions

* `Build.addResourceFiles` — the requests for the resources of the application.
* `Build.complete` — the build after all contributors.
* `Generation.Writing` — writing files.
* `Generation.run` — one run.
-/

namespace StaticWiring

/-! ### Completing a build -/

namespace Build

/-- Where native image configuration that belongs to the application begins, which is no resource of
its own. -/
def nativeImageStart : String :=
  "META-INF/native-image"

/-- The paths of the files below a resource folder that are requested. Each path is the one below
the folder, with slashes between its steps. An absent folder has none. -/
def resourcePaths (files : FileTree) (folder : String) : List String :=
  if files.isFolder folder then
    ((files.filesBelow folder).map fun (segments, _) => "/".intercalate segments).filter
      (!Text.startsWith nativeImageStart ·)
  else []

/-- The build with requests for the files of resource folders, each of which is requested unless a
broad pattern of the configuration covers it as the engine reads it. -/
def addResourceFiles (build : Build) (engine : RegexEngine) (files : FileTree)
    (folders : List String) : Build :=
  let paths := folders.flatMap (resourcePaths files)
  let compiled := (CompiledConfig.ofConfig engine build.config).addAll (paths.map .resource)
  { build with config := compiled.config }

/-- The build of a run after all of its contributors, which the options select if they are not
given. -/
def complete (engine : RegexEngine) (files : FileTree) (layout : Layout) (options : Options)
    (phase : Phase) (contributors : Option (List Contributor)) :
    Except GenerationError Build := do
  let build ← load files layout options
  let contributors ←
    match contributors with
    | some contributors => .ok contributors
    | none => Contributor.ofOptions options
  let build ← (contributors.filter (·.supports phase)).foldlM
    (fun build c => build.contribute files options c) build
  return build.addResourceFiles engine files layout.resourceFolders

end Build

/-! ### Writing -/

/-- What a run reports. It is what the user gets to see of a run that succeeded. -/
structure Report where
  /-- The paths of the written files in order. -/
  files : List String
  /-- The number of registrations. -/
  definitionCount : Nat
  /-- The number of generated classes. -/
  classCount : Nat
deriving DecidableEq, Inhabited

namespace Generation

/-- Writing to a tree of files, which remains as it is when writing fails. What was written before
the failure stays on the disk. -/
abbrev Writing := ExceptT GenerationError (StateM FileTree)

/-- A folder is created with all folders on the way. It is no failure if the folder is there
already. -/
def createFolder (path : String) : Writing PUnit := do
  match (← get).createFolders? path with
  | some tree => set tree
  | none => throw (.unwritable path)

/-- A text is written to a file. The file is replaced if it is there already. -/
def writeText (path text : String) : Writing PUnit := do
  match (← get).write? path (.text text) with
  | some tree => set tree
  | none => throw (.unwritable path)

/-- A text is written to a file, whose folder is created before. The first of the two that fails
ends the run. -/
def writeBelow (file : OutputFile) : Writing PUnit := do
  createFolder (FileTree.Path.parent file.path)
  writeText file.path file.text

/-- The sources and resources of a build with their paths. The sources come first, in the order in
which the classes were generated. -/
def outputFiles (layout : Layout) (build : Build) : List OutputFile :=
  build.sources.map (fun f => ⟨FileTree.Path.join layout.sources f.path, f.text⟩) ++
    build.resources.map fun f => { f with path := pathBelow layout.resources f.path }

/-- The descriptors of a build with their paths; only a native image that is described by what is
generated has descriptors. -/
def descriptorFiles (layout : Layout) (options : Options) (build : Build) : List OutputFile :=
  match options.mode with
  | .native =>
    let folder := pathBelow layout.resources nativeConfigFolder
    build.config.descriptors.map fun (name, text) => ⟨FileTree.Path.join folder name, text⟩
  | .nativeAgent => []

/-- The files of a build are written. The folder of the descriptors is created even if none is
written, as other tools put theirs there. -/
def writeBuild (layout : Layout) (options : Options) (build : Build) : Writing Report := do
  let files := outputFiles layout build
  let descriptors := descriptorFiles layout options build
  files.forM writeBelow
  createFolder (pathBelow layout.resources nativeConfigFolder)
  descriptors.forM fun f => writeText f.path f.text
  return {
    files := (files ++ descriptors).map (·.path)
    definitionCount := build.definitionCount
    classCount := build.classCount }

/-- One run for a source set: the files after it, and its report. Files are written only after
everything has been generated, so that a failure before that leaves no trace. -/
def run (engine : RegexEngine) (files : FileTree) (layout : Layout) (options : Options)
    (phase : Phase) (contributors : Option (List Contributor)) :
    Except GenerationError Report × FileTree :=
  match Build.complete engine files layout options phase contributors with
  | .error e => (.error e, files)
  | .ok build => (writeBuild layout options build).run.run files

end Generation

end StaticWiring
