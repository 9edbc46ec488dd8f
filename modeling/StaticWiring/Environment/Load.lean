import StaticWiring.Environment.Basic

/-!
# Environments from property files

The environment of an application is read from the property files in its resource folders: the file
`application.properties` of every folder, and above these the file `application-p.properties` of
every folder for each active profile `p`, the last activated highest. Above all files stand the
leading sources. The active profiles are those that the leading sources and the files without
profile list, and then those asked for.

## Main definitions

* `Environment.readSources` — the sources read from the files of one name.
* `Environment.assemble` — the environment of leading sources, folders and profiles.
* `Environment.load` — the environment of an application with overriding properties.
* `Environment.withInlined` — an environment with further properties and profiles on top.
-/

namespace StaticWiring.Environment

/-- A property file that holds no text. It is the only way in which reading an environment can fail.
-/
structure UnreadableFile where
  /-- The path of the file. -/
  path : String
deriving DecidableEq

/-! ### Property files -/

/-- The source read from the file at a path, if there is one. An absent file is no failure, since
every property file is optional. -/
def readSource (files : FileTree) (path : String) :
    Except UnreadableFile (Option PropertySource) :=
  if files.isFile path then
    match files.text? path with
    | some content => .ok (some ⟨path, Properties.parse content⟩)
    | none => .error ⟨path⟩
  else .ok none

/-- The sources read from the files of one name in every folder. The folders are read in order, and
so earlier folders have precedence. -/
def readSources (files : FileTree) (folders : List String) (fileName : String) :
    Except UnreadableFile (List PropertySource) := do
  let sources ← folders.mapM fun folder => readSource files (FileTree.Path.join folder fileName)
  return sources.filterMap id

/-- The name of the property files of a profile. It stands beside the file that all profiles share.
-/
def profileFile (profile : String) : String :=
  "application-" ++ profile ++ ".properties"

/-- The sources read from the files of profiles, the last profile first. A profile that was
activated later has precedence over those before it. -/
def readProfiles (files : FileTree) (folders profiles : List String) :
    Except UnreadableFile (List PropertySource) := do
  let sources ← profiles.reverse.mapM fun p => readSources files folders (profileFile p)
  return sources.flatten

/-! ### Environments -/

/-- The environment of leading sources, the folders of property files, and profiles asked for.
Profiles are determined before their files are read, so that such a file activates no further
profile. Empty sources are left out. -/
def assemble (files : FileTree) (folders : List String) (leading : List PropertySource)
    (profiles : List String) : Except UnreadableFile Environment := do
  let base ← readSources files folders "application.properties"
  let active := ((ofSources (leading ++ base)).activate profiles).activeProfiles
  let profiled ← readProfiles files folders active
  return {
    sources := (leading ++ profiled ++ base).filter (!·.entries.isEmpty)
    activeProfiles := active
    leading
    folders }

/-- The environment of an application with overriding properties on top of its files. The profiles
are those that the overrides and the shared files list. -/
def load (files : FileTree) (folders : List String) (overrides : List (String × String)) :
    Except UnreadableFile Environment :=
  assemble files folders [⟨"overrides", overrides⟩] []

/-- A property given as a key and a value around the first equals sign or colon. A property without
either sign has the empty value. -/
def inlinedEntry (property : String) : String × String :=
  match Text.cutAt (fun c => c == '=' || c == ':') property.toList with
  | some (key, value) => (Text.trim (String.ofList key), Text.trim (String.ofList value))
  | none => (Text.trim property, "")

/-- The environment with further properties on top and further active profiles. The property files
are read again, since the profiles may bring files of their own; an environment without folders
keeps its sources. -/
def withInlined (env : Environment) (files : FileTree) (properties profiles : List String) :
    Except UnreadableFile Environment :=
  let inlined : PropertySource := ⟨"inlined", properties.map inlinedEntry⟩
  if env.folders.isEmpty then
    .ok (((ofSources (inlined :: env.sources)).activate env.activeProfiles).activate profiles)
  else assemble files env.folders (inlined :: env.leading) profiles

end StaticWiring.Environment
