import StaticWiring.Json.Basic

/-!
# JSON text

A value is written in one line, or over many lines with two spaces of indentation per level, a space
after the colon of a member, and `[]` and `{}` for what is empty. In strings the quote, the
backslash and the control characters below the space are escaped, the latter by their short escapes
or by four small hexadecimal digits.

## Main definitions

* `Json.escape` — the written form of a character of a string.
* `Json.compact` — a value in one line.
* `Json.pretty` — a value over many lines.
-/

namespace StaticWiring.Json

/-! ### Strings -/

/-- The small hexadecimal digit of a number below sixteen. Letters are small, as they are in the
escapes of most printers. -/
def hexDigit (n : Nat) : Char :=
  Nat.digitChar n

/-- The written form of a character of a string. Only the characters that have to be escaped are,
and everything else stands for itself. -/
def escape (c : Char) : List Char :=
  if c = '"' then ['\\', '"']
  else if c = '\\' then ['\\', '\\']
  else if c = '\n' then ['\\', 'n']
  else if c = '\r' then ['\\', 'r']
  else if c = '\t' then ['\\', 't']
  else if c = '\x08' then ['\\', 'b']
  else if c = '\x0c' then ['\\', 'f']
  else if c.toNat < 0x20 then
    ['\\', 'u', '0', '0', hexDigit (c.toNat / 16), hexDigit (c.toNat % 16)]
  else [c]

/-- A string between quotes. The quotes are part of the text. -/
def quoted (s : String) : List Char :=
  '"' :: (s.toList.flatMap escape ++ ['"'])

/-! ### Values -/

/-- The text of a value that is neither an array nor an object. An array or an object has none here,
as it is written by its own function. -/
def scalarText : Json → List Char
  | null => "null".toList
  | bool true => "true".toList
  | bool false => "false".toList
  | number n => (toString n).toList
  | fraction lexeme => lexeme.toList
  | string s => quoted s
  | illFormed => "\"\\ud800\"".toList
  | array _ => []
  | object _ => []

mutual

/-- A value in one line. There are no blanks between its parts. -/
def compactChars : Json → List Char
  | array items => '[' :: (compactItems items ++ [']'])
  | object members => '\x7b' :: (compactMembers members ++ ['\x7d'])
  | scalar => scalarText scalar

/-- The items of an array in one line, separated by commas. An empty array has none, and there is no
comma behind the last one. -/
def compactItems : List Json → List Char
  | [] => []
  | [item] => compactChars item
  | item :: items => compactChars item ++ ',' :: compactItems items

/-- The members of an object in one line, separated by commas. Every value stands right behind the
colon. -/
def compactMembers : List (String × Json) → List Char
  | [] => []
  | [(key, value)] => quoted key ++ ':' :: compactChars value
  | (key, value) :: members =>
    quoted key ++ ':' :: (compactChars value ++ ',' :: compactMembers members)

end

/-- A value in one line. It is the form in which values are passed on to other programs. -/
def compact (value : Json) : String :=
  String.ofList (compactChars value)

/-- A line feed and the indentation of a level. A level is two blanks. -/
def newline (level : Nat) : List Char :=
  '\n' :: List.replicate (2 * level) ' '

mutual

/-- A value over many lines, its first line already indented. Empty containers stay on one line. -/
def prettyChars (level : Nat) : Json → List Char
  | array [] => ['[', ']']
  | array (item :: items) =>
    '[' :: (prettyItems (level + 1) (item :: items) ++ newline level ++ [']'])
  | object [] => ['\x7b', '\x7d']
  | object (member :: members) =>
    '\x7b' :: (prettyMembers (level + 1) (member :: members) ++ newline level ++ ['\x7d'])
  | scalar => scalarText scalar

/-- The items of an array, each on a line of its own. They are indented by the level, and no comma
stands behind the last one. -/
def prettyItems (level : Nat) : List Json → List Char
  | [] => []
  | [item] => newline level ++ prettyChars level item
  | item :: items => newline level ++ prettyChars level item ++ ',' :: prettyItems level items

/-- The members of an object, each on a line of its own. They are indented by the level, and a blank
stands behind each colon. -/
def prettyMembers (level : Nat) : List (String × Json) → List Char
  | [] => []
  | [(key, value)] => newline level ++ quoted key ++ ':' :: ' ' :: prettyChars level value
  | (key, value) :: members =>
    newline level ++ quoted key ++ ':' :: ' ' :: (prettyChars level value ++
      ',' :: prettyMembers level members)

end

/-- A value over many lines. It is the form in which files are written for readers. -/
def pretty (value : Json) : String :=
  String.ofList (prettyChars 0 value)

end StaticWiring.Json
