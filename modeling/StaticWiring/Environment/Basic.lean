import StaticWiring.FileTree
import StaticWiring.Properties

/-!
# The environment

The environment of an application is a list of property sources, the highest precedence first, with
the active profiles. It remembers the sources above all property files, and the folders of these
files, so that it can be derived again with further properties and profiles.

## Main definitions

* `PropertySource`, `PropertySource.get?` — properties, of which the last entry of a key counts.
* `Environment`, `Environment.get?` — the value of a property in the first source that has it.
* `Environment.ofSources` — an environment whose active profiles are read from its properties.
* `Environment.accepts` — profile expressions.
-/

namespace StaticWiring

/-- The name of a property source with its entries. The name is for messages; the precedence of a
source is its place in a list. -/
structure PropertySource where
  /-- Where the entries come from. -/
  name : String
  /-- The keys with their values in order. -/
  entries : List (String × String)
deriving DecidableEq, Inhabited

/-- The value of the last entry with a key. A key may occur several times in a file, and the last
entry is the one that counts. -/
def PropertySource.get? (source : PropertySource) (key : String) : Option String :=
  source.entries.reverse.lookup key

/-- The properties and profiles of an application. The last two fields allow another environment to
be derived by reading the files again. -/
structure Environment where
  /-- The property sources, the highest precedence first. -/
  sources : List PropertySource := []
  /-- The active profiles in the order of their activation. -/
  activeProfiles : List String := []
  /-- The sources above all property files. -/
  leading : List PropertySource := []
  /-- The folders of the property files. -/
  folders : List String := []
deriving DecidableEq, Inhabited

namespace Environment

/-! ### Properties -/

/-- The value of a property in the first source that has it. A source that has the key hides all
sources of lower precedence, whatever its value is. -/
def get? (env : Environment) (key : String) : Option String :=
  env.sources.findSome? (·.get? key)

/-! ### Profiles -/

/-- The property that lists the active profiles. It is read like any other property, with the same
precedence of sources. -/
def activeProfilesKey : String :=
  "spring.profiles.active"

/-- The profile that is active where no other is. It is accepted by conditions only; no property
file is read for it. -/
def defaultProfile : String :=
  "default"

/-- The profiles listed by the property `Environment.activeProfilesKey`. Blanks around the names do
not count, and an absent property lists none. -/
def listedProfiles (env : Environment) : List String :=
  match env.get? activeProfilesKey with
  | some value => Properties.commaSeparated value
  | none => []

/-- The environment with the given sources, whose active profiles are those that its properties
list. -/
def ofSources (sources : List PropertySource) : Environment :=
  let env : Environment := { sources }
  { env with activeProfiles := env.listedProfiles }

/-- A list of profiles with those of `profiles` that it lacks at its end. A profile is added at most
once, and never moves. -/
def addMissing (active profiles : List String) : List String :=
  profiles.foldl (fun active p => if active.contains p then active else active ++ [p]) active

/-- The environment with further active profiles. Those that are active already keep their places,
and with them their precedence. -/
def activate (env : Environment) (profiles : List String) : Environment :=
  { env with activeProfiles := addMissing env.activeProfiles profiles }

/-- The profile is active; without any active profile the default profile is. Names are compared
letter by letter. -/
def isActive (env : Environment) (profile : String) : Bool :=
  if env.activeProfiles.isEmpty then profile == defaultProfile
  else env.activeProfiles.contains profile

/-- The profile expression holds: a profile is active, or, behind an exclamation mark, not
active. -/
def acceptsOne (env : Environment) (expression : String) : Bool :=
  match Text.stripStart? ['!'] expression.toList with
  | some profile => !env.isActive (Text.trim (String.ofList profile))
  | none => env.isActive (Text.trim expression)

/-- One of the profile expressions holds. No expression at all is never accepted. -/
def accepts (env : Environment) (expressions : List String) : Bool :=
  expressions.any env.acceptsOne

end Environment

end StaticWiring
