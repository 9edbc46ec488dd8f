import StaticWiring.Regex.Parser
import StaticWiring.Regex.Walk
import StaticWiring.RegexEngine

/-!
# The engine of the program

The engine that the program runs with: it reads the regular expressions of this library, and refuses
those that are nested too deep or too large.

## Main definitions

* `Regex.engine` — the engine.
-/

namespace StaticWiring

/-- The engine that the program runs with. It has no classes by the names of Unicode properties, and
refuses texts with such classes as it refuses other texts that are no expressions. -/
def Regex.engine : RegexEngine where
  Expression := Regex
  read? text := parse? text.toList
  isMatch := isMatch

end StaticWiring
