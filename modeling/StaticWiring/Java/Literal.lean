import StaticWiring.Text.Hexadecimal

/-!
# Literals of Java

Strings and characters are written between quotes. The backslash, the quote, line feeds, carriage
returns and tabs are escaped by a backslash, and all other control characters by their code point.

## Main definitions

* `Java.escape` — the written form of a character between quotes.
* `Java.stringLiteral`, `Java.charLiteral` — literals.
-/

namespace StaticWiring.Java

/-- The control characters of Unicode. They would be invisible in the source, or end its line. -/
def isControl (c : Char) : Bool :=
  c.toNat < 0x20 || (0x7F ≤ c.toNat && c.toNat ≤ 0x9F)

/-- The written form of a character between quotes. Only the quote that encloses the literal has to
be escaped; the other one stands for itself. -/
def escape (quote c : Char) : List Char :=
  if c = '\\' then ['\\', '\\']
  else if c = '\n' then ['\\', 'n']
  else if c = '\r' then ['\\', 'r']
  else if c = '\t' then ['\\', 't']
  else if c = quote then ['\\', c]
  else if isControl c then '\\' :: 'u' :: Text.hexDigits 4 c.toNat
  else [c]

/-- A literal between quotes. Each character is written on its own, whatever stands beside it. -/
def quoted (quote : Char) (cs : List Char) : String :=
  String.ofList (quote :: (cs.flatMap (escape quote) ++ [quote]))

/-- The literal of a string. It is enclosed by double quotes, and may hold any number of characters.
-/
def stringLiteral (value : String) : String :=
  quoted '"' value.toList

/-- The literal of a character. It is enclosed by single quotes. -/
def charLiteral (value : Char) : String :=
  quoted '\'' [value]

end StaticWiring.Java
