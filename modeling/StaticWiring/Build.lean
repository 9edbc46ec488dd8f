import StaticWiring.Capture.Task
import StaticWiring.ClassForest.Distribution
import StaticWiring.ClassForest.Rendering
import StaticWiring.ClassPath.Application
import StaticWiring.Contributor
import StaticWiring.NativeConfig.Hints
import StaticWiring.TestGroup
import StaticWiring.Wiring.Resolution

/-!
# Builds

A build is what one run knows and accumulates: the class path and the environment of the
application, its auto-configurations, the configuration of the native image, and the files to be
written. The contributors extend it one after the other.

## Main definitions

* `Layout` — where the application lives and where the files go.
* `SourceFile` — the source of a generated class.
* `Build`, `Build.load` — what one run knows.
* `ContextPlan`, `ContextPlan.generate` — one context from its capture to its classes.
* `Build.contribute` — the build after a contributor.
-/

namespace StaticWiring

/-! ### Files and folders -/

/-- Where the application lives and where the files go. Everything that is read is below the folders
of the application, and everything that is written is below the first two. -/
structure Layout where
  /-- The folder of generated sources. -/
  sources : String
  /-- The folder of generated resources. -/
  resources : String
  /-- The resource folders of the application. -/
  resourceFolders : List String
  /-- The folders of compiled types. -/
  classFolders : List String
  /-- The application class, found by its annotation if absent. -/
  applicationClass : Option String := none
deriving DecidableEq, Inhabited

/-- A generated file: its path below a folder, and its text. The folder is that of the sources or
that of the resources, depending on the kind of the file. -/
structure OutputFile where
  /-- The path. -/
  path : String
  /-- The text. -/
  text : String
deriving DecidableEq, Inhabited

/-- The path of the source of a class in a package. Every segment of the package is a folder, and
the unnamed package has none. -/
def sourcePath (package className : String) : String :=
  let folders := (Text.pieces (· == '.') package).filter (!·.isEmpty)
  FileTree.Path.join (FileTree.Path.joinAll "" folders) (className ++ ".java")

/-- The source of a generated class. The package is kept apart from the name, since the path is made
from both. -/
structure SourceFile where
  /-- The package of the class. -/
  package : String
  /-- The name of the class in its package. -/
  className : String
  /-- The text. -/
  text : String
deriving DecidableEq, Inhabited

/-- The path of a source below the folder of sources. Two sources are written to the same file if
their packages and names agree. -/
def SourceFile.path (file : SourceFile) : String :=
  sourcePath file.package file.className

/-- The folder of the descriptors below the folder of resources. The native image is built from all
descriptors that it finds in folders of this kind. -/
def nativeConfigFolder : String :=
  "META-INF/native-image/org.springframework.aot/spring-aot"

/-- The path below a folder given by segments between slashes. Empty segments are passed over, so
that doubled slashes do no harm. -/
def pathBelow (folder relative : String) : String :=
  FileTree.Path.joinAll folder ((Text.pieces (· == '/') relative).filter (!·.isEmpty))

/-! ### Builds -/

/-- What one run knows and accumulates. The first fields are read once at the start; the others grow
as the contributors follow one another. -/
structure Build where
  /-- The types that are known. -/
  classPath : ClassPath
  /-- The environment of the application. -/
  environment : Environment
  /-- The auto-configurations in order. -/
  autoConfigurations : List String := []
  /-- The stated application class. -/
  statedApplicationClass : Option String := none
  /-- The configuration of the native image. -/
  config : NativeConfig := {}
  /-- The sources to be written, in order. -/
  sources : List SourceFile := []
  /-- The resources to be written, in order. -/
  resources : List OutputFile := []
  /-- The number of registrations. -/
  definitionCount : Nat := 0
  /-- The number of generated classes. -/
  classCount : Nat := 0

namespace Build

/-- The path of the files that list auto-configurations. Every resource folder may have such a file,
and libraries bring their own. -/
def factoriesPath : String :=
  "META-INF/spring.factories"

/-- The key under which these files list auto-configurations. What other keys of these files list is
of no concern here. -/
def autoConfigurationKey : String :=
  "org.springframework.boot.autoconfigure.EnableAutoConfiguration"

/-- The auto-configurations that the file of one folder lists. A folder without such a file lists
none, whereas a file that holds no text is an error. -/
def listedIn (files : FileTree) (folder : String) : Except LoadError (List String) :=
  let path := FileTree.Path.join folder factoriesPath
  if files.isFile path then
    match files.text? path with
    | some content => .ok (Properties.listed content autoConfigurationKey)
    | none => .error (.unreadable path)
  else .ok []

/-- The auto-configurations that the files of folders list, each at its first mention. The order of
the folders is kept, and within a file that of its lines. -/
def readAutoConfigurations (files : FileTree) (folders : List String) :
    Except LoadError (List String) := do
  let lists ← folders.mapM (listedIn files)
  return lists.flatten.eraseDups

/-- What a run knows of an application. Types, properties and auto-configurations are read one after
the other, and the first failure ends the run. -/
def read (files : FileTree) (layout : Layout) (options : Options) :
    Except LoadError Build := do
  let classPath ←
    match ClassPath.load files layout.classFolders with
    | .ok classPath => .ok classPath
    | .error fault => .error (LoadError.metadata fault)
  let environment ←
    match Environment.load files layout.resourceFolders options.properties with
    | .ok environment => .ok environment
    | .error file => .error (LoadError.unreadable file.path)
  let autoConfigurations ←
    readAutoConfigurations files (layout.resourceFolders ++ layout.classFolders)
  return {
    classPath
    environment
    autoConfigurations
    statedApplicationClass := layout.applicationClass }

/-- What a run knows of an application, or why it fails. The failure names the stated application
class, or the application if none is stated. -/
def load (files : FileTree) (layout : Layout) (options : Options) :
    Except GenerationError Build :=
  match read files layout options with
  | .ok build => .ok build
  | .error cause =>
    .error (.configuration (layout.applicationClass.getD "the application") cause)

/-- The application class: the stated one, or the one found by its annotation. If no class is
stated, exactly one class has to be annotated as the application's. -/
def applicationClass (build : Build) : Except LoadError String :=
  match build.statedApplicationClass with
  | some name => .ok name
  | none => build.classPath.applicationClass.map (·.name)

end Build

/-! ### Contexts -/

/-- A context whose definitions are captured, selected, wired and registered. The plan says where
the context starts and where its classes belong; nothing is captured before it is carried out. -/
structure ContextPlan where
  /-- The classes that the context is started with. -/
  roots : List String
  /-- The properties of the context. -/
  environment : Environment
  /-- The name of the initializer. -/
  className : String
  /-- The position of the class that the initializer belongs to. -/
  parent : Option Nat := none

/-- The outcome of a context. The number of registrations is reported to the user at the end of a
run. -/
structure GeneratedContext where
  /-- The classes with those of the context. -/
  forest : ClassForest
  /-- The configuration of the native image with what the context needs. -/
  config : NativeConfig
  /-- The number of registrations. -/
  definitionCount : Nat

namespace ContextPlan

/-- The definitions of a context that code is generated for. Those that are left out by the options,
and what depends on their factory beans, are not among them. -/
def catalog (plan : ContextPlan) (build : Build) (options : Options) :
    Except GenerationError Catalog :=
  let capture : Capture := ⟨build.classPath, plan.environment, options⟩
  match capture.load plan.roots build.autoConfigurations with
  | .error e => .error e
  | .ok catalog => .ok (catalog.select (Catalog.keepsByDefault options.excludeTypes))

/-- The classes and requests of a context, added to those of a forest and a configuration. The
initializer stands behind all classes so far. -/
def generate (plan : ContextPlan) (build : Build) (options : Options) (forest : ClassForest)
    (config : NativeConfig) : Except GenerationError GeneratedContext :=
  match plan.catalog build options with
  | .error e => .error e
  | .ok catalog =>
    let assembly : Assembly := ⟨build.classPath, catalog, plan.environment, forest.package⟩
    let wirings := assembly.wireAll
    match wirings.outcome with
    | .error e => .error e
    | .ok ws =>
      match forest.addContext options.statementsPerClass plan.parent plan.className ws with
      | .error e => .error e
      | .ok (forest, requests) =>
        .ok ⟨forest, config.addAll (wirings.requests ++ requests), ws.length⟩

end ContextPlan

/-! ### Contributions -/

namespace Build

/-- The build with the sources of all classes of a forest. The sources are those that the classes
lead to once no further class can change them. -/
def addClasses (build : Build) (forest : ClassForest) (definitionCount : Nat) : Build :=
  let rendered := forest.render ⟨build.classPath, forest.package⟩
  { build with
    sources := build.sources ++
      rendered.map fun (name, text) => ⟨forest.package, name, text⟩
    definitionCount := build.definitionCount + definitionCount
    classCount := build.classCount + rendered.length }

/-- The name of the initializer of the application. It stands in the package of the application,
unless another package is stated. -/
def initializerName : String :=
  "ContextBootstrapInitializer"

/-- The build with the context of the application. The package is the stated one, or else the
package of the application class. -/
def addApplicationContext (build : Build) (options : Options) : Except GenerationError Build :=
  match build.applicationClass with
  | .error cause => .error (.configuration "the application" cause)
  | .ok application =>
    let package := options.package.getD (TypeName.packageOf application)
    let plan : ContextPlan := ⟨[application], build.environment, initializerName, none⟩
    match plan.generate build options { package } build.config with
    | .error e => .error e
    | .ok context =>
      .ok ({ build with config := context.config }.addClasses context.forest
        context.definitionCount)

/-- The package of the contexts of tests, unless another one is stated. It is the package of the
framework's own code for generated tests. -/
def testPackage : String :=
  "org.springframework.aot"

/-- The classes that the context of a group is started with: the stated ones, or the application
class. -/
def testRoots (build : Build) (g : TestGroup) : Except LoadError (List String) :=
  if g.context.classes.isEmpty then build.applicationClass.map ([·]) else .ok g.context.classes

/-- The properties of the context of a group. The stated properties have precedence over all others,
and the stated profiles are active besides those of the application. -/
def testEnvironment (build : Build) (files : FileTree) (g : TestGroup) :
    Except LoadError Environment :=
  match build.environment.withInlined files g.context.properties g.context.activeProfiles with
  | .ok environment => .ok environment
  | .error file => .error (.unreadable file.path)

/-- The plan of the context of a group, which belongs to the first class of the forest. The first
class is the one that maps test classes to loaders. A failure names the test classes of the group.
-/
def testPlan (build : Build) (files : FileTree) (g : TestGroup) (className : String) :
    Except GenerationError ContextPlan :=
  let plan : Except LoadError ContextPlan := do
    let roots ← build.testRoots g
    let environment ← build.testEnvironment files g
    return { roots, environment, className, parent := some 0 }
  match plan with
  | .ok plan => .ok plan
  | .error cause => .error (.configuration (", ".intercalate g.testClasses) cause)

/-- What the contexts of tests have led to so far. It is threaded through the groups, so that the
classes of later contexts stand behind those of earlier ones. -/
structure TestContexts where
  /-- The classes. -/
  forest : ClassForest
  /-- The configuration of the native image. -/
  config : NativeConfig
  /-- The test classes with the positions of their initializers. -/
  entries : List (String × Nat) := []
  /-- The number of registrations. -/
  definitionCount : Nat := 0

/-- The context of one more group. The initializer stands behind all classes so far, and is
documented with the test classes that it is for. -/
def addTestContext (build : Build) (files : FileTree) (options : Options) (done : TestContexts)
    (g : TestGroup) (className : String) : Except GenerationError TestContexts :=
  match build.testPlan files g className with
  | .error e => .error e
  | .ok plan =>
    match plan.generate build options done.forest done.config with
    | .error e => .error e
    | .ok context =>
      let position := done.forest.size
      .ok {
        forest := context.forest.modify position fun c => { c with doc := some g.doc }
        config := context.config
        entries := done.entries ++ g.testClasses.map (·, position)
        definitionCount := done.definitionCount + context.definitionCount }

/-- The build with the contexts of test classes, which one further class maps the test classes
to. -/
def addTestContexts (build : Build) (files : FileTree) (options : Options) :
    Except GenerationError Build :=
  match TestGroup.ofTypes build.classPath.types with
  | [] => .ok build
  | groups => do
    let forest : ClassForest := { package := options.package.getD testPackage }
    let root : GeneratedClass := { name := TestGroup.rootName, role := .contextLoaders [] }
    let done ← (TestGroup.named 0 groups).foldlM
      (fun done (g, className) => build.addTestContext files options done g className)
      { forest := forest.add root, config := build.config }
    let forest := done.forest.modify 0 fun c => { c with role := .contextLoaders done.entries }
    return { build with config := done.config }.addClasses forest done.definitionCount

/-- The build with the build arguments for what is left out of a native image. They are written for
a native image only, and only if something is left out. -/
def addFeatureFlags (build : Build) (options : Options) : Build :=
  match options.mode, options.nativeImageProperties with
  | .native, some text =>
    { build with
      resources := build.resources ++ [⟨nativeConfigFolder ++ "/native-image.properties", text⟩] }
  | _, _ => build

/-- The build after a contributor. Contributors are independent of each other, except that later
ones see what earlier ones have added. -/
def contribute (build : Build) (files : FileTree) (options : Options) :
    Contributor → Except GenerationError Build
  | .applicationContext => build.addApplicationContext options
  | .testContexts => build.addTestContexts files options
  | .nativeHints =>
    .ok { build with config := build.config.applyHints build.classPath options }
  | .featureFlags => .ok (build.addFeatureFlags options)

end Build

end StaticWiring
