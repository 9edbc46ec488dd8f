import StaticWiring.Failure
import StaticWiring.Options.Basic

/-!
# Contributors

A run is made of contributors, which follow one another in the order in which they are selected. The
application's context belongs to the main sources and the contexts of tests to the test sources; the
hints for the native image and the flags for what is left out belong to both.

## Main definitions

* `Contributor`, `Contributor.name`, `Contributor.supports`.
* `Contributor.select` — contributors by name.
* `Contributor.ofOptions` — the contributors that the options select.
-/

namespace StaticWiring

/-- A part of a run. A run is the sequence of its contributors, each of which adds to what the ones
before it have left. -/
inductive Contributor where
  /-- The context of the application. -/
  | applicationContext
  /-- The contexts of test classes. -/
  | testContexts
  /-- The hints for the native image. -/
  | nativeHints
  /-- The build arguments for what is left out. -/
  | featureFlags
deriving DecidableEq, Inhabited

namespace Contributor

/-- All contributors in the order in which they follow one another by default. The contexts come
first, since the hints may be asked for what they have added. -/
def all : List Contributor :=
  [applicationContext, testContexts, nativeHints, featureFlags]

/-- The name of a contributor. It is how the options refer to the contributor. -/
def name : Contributor → String
  | applicationContext => "application-context"
  | testContexts => "test-context"
  | nativeHints => "native-hints"
  | featureFlags => "feature-flags"

/-- The contributor takes part in runs for a source set. The contexts belong to one of the source
sets, the others to both. -/
def supports (c : Contributor) (phase : Phase) : Bool :=
  match c with
  | applicationContext => phase = .main
  | testContexts => phase = .test
  | nativeHints => true
  | featureFlags => true

/-- The contributor with a name. Names are compared letter by letter. -/
def ofName? (name : String) : Option Contributor :=
  all.find? (·.name == name)

/-- The contributors with the given names, each at its first mention. An unknown name is an error,
even if all others are known. -/
def select (names : List String) : Except GenerationError (List Contributor) := do
  let contributors ← names.mapM fun name =>
    match ofName? name with
    | some c => .ok c
    | none => .error (.unknownContributor name)
  return contributors.eraseDups

/-- The contributors that the options select, all of them by default. An empty list selects none,
which is different from no list at all. -/
def ofOptions (options : Options) : Except GenerationError (List Contributor) :=
  match options.contributors with
  | some names => select names
  | none => .ok all

end Contributor

end StaticWiring
