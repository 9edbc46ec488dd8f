import StaticWiring.RegexEngine
import StaticWiring.Text.Cut

/-!
# What an engine is relied on for

An engine looks for matching parts of a text. Whether an expression matches a text as a whole is
decided by the language that the engine reads, and little has to be known of it: a group between the
start and the end of the text matches what stands in the group, and characters without a meaning of
their own match themselves. All of this is said of texts that the engine reads; which texts it
refuses is left open.

## Main definitions

* `RegexEngine.operators` — the characters that do not match themselves.
* `RegexEngine.Language` — the language of an engine.
-/

namespace StaticWiring.RegexEngine

/-- The characters that have a meaning of their own in expressions. The dot is none of them here: it
matches itself, among other characters. -/
def operators : List Char :=
  "\\+*?()|[\x7b^$".toList

/-- The language of an engine: what the expressions match as a whole, as far as it can be told from
the texts that they are read from. -/
structure Language (engine : RegexEngine) where
  /-- The expression matches the text from its start to its end. -/
  matchesWhole : engine.Expression → (text : String) → Bool
  /-- A pattern that ends with a dot and a star closes no group and escapes no character behind it.
  So between the start and the end it matches some part of a text where the pattern by itself, with
  circumflexes in front of it or without them, matches the text as a whole. -/
  isMatch_anchored {carets pattern : String} {r r' : engine.Expression}
    (start : ∀ c ∈ carets.toList, c = '^') (ends : Text.endsWith ".*" pattern = true)
    (alone : engine.read? (carets ++ pattern) = some r)
    (inGroup : engine.read? (anchored pattern) = some r') (text : String) :
    engine.isMatch r' text = matchesWhole r text
  /-- Characters that have no meaning of their own match themselves. -/
  matchesWhole_plain {text : String} {r : engine.Expression}
    (plain : ∀ c ∈ text.toList, c ∉ operators) (found : engine.read? text = some r) :
    matchesWhole r text = true

end StaticWiring.RegexEngine
