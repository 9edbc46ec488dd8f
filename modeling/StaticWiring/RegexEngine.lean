/-!
# Engines of regular expressions

Patterns for resources are regular expressions. How their texts are read, and where they match, is
left to an engine, and whatever is said of patterns is said for every engine. An engine refuses a
text that is no expression, and may refuse one for its size.

## Main definitions

* `RegexEngine` — an engine of regular expressions.
* `RegexEngine.anchored` — a text in a group between the start and the end.
-/

namespace StaticWiring

/-- An engine of regular expressions: it reads texts as expressions, and looks for parts of a text
that an expression matches. Reading the same text again gives the same expression. -/
structure RegexEngine where
  /-- The expressions that the engine reads. -/
  Expression : Type
  /-- The expression that a text stands for, unless the engine refuses the text. -/
  read? : (text : String) → Option Expression
  /-- The expression matches some part of a text, which may be empty or all of the text. -/
  isMatch : Expression → (text : String) → Bool

/-- A text in a group between the start and the end. Read as an expression, it stands for the text
as a whole, unless what is in the group closes it. -/
def RegexEngine.anchored (text : String) : String :=
  "^(?:" ++ text ++ ")$"

end StaticWiring
