import StaticWiring.NativeConfig.Basic
import StaticWiring.RegexEngine

/-!
# Configurations with compiled patterns

A single resource is not requested if a broad pattern covers it. So while requests come in, the
expression of a broad pattern is read once, when the pattern is requested for the first time, and
then asked about every path. A broad pattern is read without the circumflexes at its start, in a
group between the start and the end of the path. One that the engine refuses is kept and covers
nothing.

## Main definitions

* `NativeConfig.broadExpression?` — the expression of a broad pattern.
* `CompiledConfig` — a configuration with the expressions of its broad patterns.
* `CompiledConfig.ofConfig` — the expressions of a configuration.
* `CompiledConfig.covers` — one of the expressions matches a path.
* `CompiledConfig.Request`, `CompiledConfig.add` — requests, those for single resources included.
-/

namespace StaticWiring

namespace NativeConfig

/-- A pattern without the circumflexes at its start. Patterns may have several of them, and they are
put back where the expression is anchored. -/
def withoutCarets (pattern : String) : String :=
  String.ofList (pattern.toList.dropWhile (· == '^'))

/-- The expression that is asked whether a pattern covers a path: the one of the pattern between the
start and the end of the path, if the pattern is broad and the engine reads it there. -/
def broadExpression? (engine : RegexEngine) (pattern : String) : Option engine.Expression :=
  if isBroad pattern then engine.read? (RegexEngine.anchored (withoutCarets pattern)) else none

end NativeConfig

/-- A configuration of the native image with the expressions that an engine has read for its broad
patterns. They tell whether a single resource still has to be requested. -/
structure CompiledConfig (engine : RegexEngine) where
  /-- The configuration. -/
  config : NativeConfig := {}
  /-- The expressions in the order in which their patterns were requested. -/
  broad : List engine.Expression := []

namespace CompiledConfig

variable {engine : RegexEngine}

/-- The configuration with the expressions of its patterns. They stand in the order of the patterns,
which need not be the one of the requests; what is covered does not depend on it. -/
def ofConfig (engine : RegexEngine) (config : NativeConfig) : CompiledConfig engine where
  config := config
  broad := config.patterns.filterMap (NativeConfig.broadExpression? engine)

/-- One of the expressions matches the path, so that the path needs no request of its own. Only
broad patterns are asked; a path that is a pattern itself is found among the patterns. -/
def covers (c : CompiledConfig engine) (path : String) : Bool :=
  c.broad.any (engine.isMatch · path)

/-- The configuration with one more pattern, whose expression is read if it is new. A broad pattern
that the engine cannot read is still a pattern, but covers nothing. -/
def addPattern (c : CompiledConfig engine) (pattern : String) : CompiledConfig engine where
  config := c.config.addPattern pattern
  broad :=
    if c.config.patterns.contains pattern then c.broad
    else c.broad ++ (NativeConfig.broadExpression? engine pattern).toList

/-- A single resource is requested if no expression covers it; whether its path was added, and the
configuration after the request. -/
def addResource (c : CompiledConfig engine) (path : String) : Bool × CompiledConfig engine :=
  if c.covers path then (false, c)
  else
    let next := c.addPattern path
    (c.config.patterns.length < next.config.patterns.length, next)

/-- A request to a configuration that knows what its broad patterns cover. The second kind is the
only one whose effect depends on what was requested before. -/
inductive Request where
  /-- A request that does not depend on what is covered. -/
  | plain (r : NativeConfig.Request)
  /-- A single resource, which is requested by its path unless a broad pattern covers it. -/
  | resource (path : String)
deriving DecidableEq

/-- The configuration with one more request. A pattern may come as such, as the class file of a type
or as the path of a single resource, and is treated alike in all cases. -/
def add (c : CompiledConfig engine) : Request → CompiledConfig engine
  | .plain (.reflection type access) =>
    let c := { c with config := c.config.updateReflection type (·.grant access) }
    if access.contains .classFile then
      c.addPattern (NativeConfig.literalPattern (NativeConfig.classFilePath type))
    else c
  | .plain (.pattern pattern) => c.addPattern pattern
  | .plain r => { c with config := c.config.add r }
  | .resource path => (c.addResource path).2

/-- The configuration with further requests, from the first to the last. The order matters, since a
path is left out only if what covers it came before. -/
def addAll (c : CompiledConfig engine) (requests : List Request) : CompiledConfig engine :=
  requests.foldl add c

end CompiledConfig

end StaticWiring
