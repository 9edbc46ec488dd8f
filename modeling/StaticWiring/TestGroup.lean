import StaticWiring.Metadata.Basic

/-!
# Groups of test classes

Test classes that ask for the same context share it. The classes of a group ascend by name, and the
groups by their first class. The initializer of a context is named for its test class, or numbered
if there are several.

## Main definitions

* `TestGroup` — test classes that share a context.
* `TestGroup.ofTypes` — the groups of all test classes.
* `TestGroup.className`, `TestGroup.doc` — the initializer of the context.
-/

namespace StaticWiring

/-- Test classes that share a context. They are started with the same classes, properties and
profiles. -/
structure TestGroup where
  /-- What the classes ask of the context. -/
  context : TestContext
  /-- The names of the classes in ascending order. -/
  testClasses : List String
deriving DecidableEq, Inhabited

namespace TestGroup

/-! ### Grouping -/

/-- The test classes with what they ask of their contexts. Types that are no test classes have no
part in it. -/
def testClassesOf (types : List TypeDecl) : List (String × TestContext) :=
  types.filterMap fun t => t.testContext.map (t.name, ·)

/-- Test classes in ascending order of their names. The order makes the groups independent of how
the metadata are spread over files. -/
def sorted (tests : List (String × TestContext)) : List (String × TestContext) :=
  tests.mergeSort fun a b => !decide (b.1 < a.1)

/-- The groups of test classes in the order of their first class. The order of what the classes ask
for plays no part, only whether it is equal. -/
def ofSorted (tests : List (String × TestContext)) : List TestGroup :=
  (tests.map Prod.snd).eraseDups.map fun context =>
    ⟨context, (tests.filter (·.2 == context)).map Prod.fst⟩

/-- The groups of the test classes among types. Every test class is in exactly one of them. -/
def ofTypes (types : List TypeDecl) : List TestGroup :=
  ofSorted (sorted (testClassesOf types))

/-! ### Initializers -/

/-- The name of the class that maps test classes to contexts, and how numbered initializers
begin. -/
def rootName : String :=
  "TestContextBootstrapInitializer"

/-- The name of the initializer of a group, with the number of the group among those with several
classes. -/
def className (g : TestGroup) (number : Nat) : String :=
  match g.testClasses with
  | [test] => Text.replace '.' '_' (TypeName.sourceShortName test) ++ "ContextInitializer"
  | _ => rootName ++ toString number

/-- Groups with the names of their initializers, where `number` is the number of the first one with
several classes. -/
def named (number : Nat) : List TestGroup → List (TestGroup × String)
  | [] => []
  | g :: gs =>
    (g, g.className number) :: named (if g.testClasses.length > 1 then number + 1 else number) gs

/-- Words with commas between them and a conjunction before the last one. Two words stand without a
comma. -/
def enumerate : List String → String
  | [] => ""
  | [one] => one
  | [first, second] => first ++ " and " ++ second
  | words => ", ".intercalate words.dropLast ++ ", and " ++ words.getLastD ""

/-- The documentation of the initializer of a group. It names the test classes by their short names,
so that the reader of the class knows what it is for. -/
def doc (g : TestGroup) : String :=
  let names := g.testClasses.map fun test =>
    "\x7b@code " ++ TypeName.sourceShortName test ++ "\x7d"
  "AOT generated context for " ++ enumerate names ++ "."

end TestGroup

end StaticWiring
