import StaticWiring.Text.Blank
import StaticWiring.Text.Cut

/-!
# Property files

A property file holds an entry per logical line: a key, a separator and a value. The separator is
white space, an equals sign or a colon, with white space around it. A backslash makes the next
character part of the key or the value, where `t`, `n`, `r` and `f` stand for control characters; at
the end of a line, where the number of backslashes is odd, it continues the logical line on the next
one without that line's leading white space. A line of white space, or one that starts with `#` or
`!`, is passed over unless it continues another.

## Main definitions

* `Properties.logicalLines` — the lines of a file with continuations joined.
* `Properties.entry?` — the key and the value of a logical line.
* `Properties.parse` — the entries of a file in order, keys possibly repeated.
* `Properties.listed` — the values that a file lists under a key, separated by commas.
-/

namespace StaticWiring.Properties

/-! ### Logical lines -/

/-- The line ends with an odd number of backslashes. An even number of them is a number of escaped
backslashes, and the line ends there. -/
def continues (line : List Char) : Bool :=
  (line.reverse.takeWhile (· == '\\')).length % 2 == 1

/-- The line, without leading white space, is empty or a comment. Such a line never continues
another one, but it may be the continuation of one. -/
def isIgnorable : List Char → Bool
  | [] => true
  | c :: _ => c == '#' || c == '!'

/-- The logical lines of a file, the first of which starts with `pending`. White space at the start
of each of their lines is left out, and so is the backslash at its end. -/
def logicalLines (pending : List Char) : List (List Char) → List (List Char)
  | [] => if pending.isEmpty then [] else [pending]
  | raw :: lines =>
    let line := Text.trimStart raw
    if pending.isEmpty && isIgnorable line then logicalLines pending lines
    else if continues line then logicalLines (pending ++ line.dropLast) lines
    else (pending ++ line) :: logicalLines [] lines

/-! ### Entries -/

/-- The character that a backslash before `c` stands for. Any other character stands for itself,
also a backslash. -/
def unescape : Char → Char
  | 't' => '\t'
  | 'n' => '\n'
  | 'r' => '\r'
  | 'f' => '\x0c'
  | c => c

/-- The text with its escapes replaced; a backslash at the end stands for nothing. Escapes by
numbers are not among them. -/
def unescapeAll : List Char → List Char
  | [] => []
  | ['\\'] => []
  | '\\' :: c :: cs => unescape c :: unescapeAll cs
  | c :: cs => c :: unescapeAll cs

/-- The character separates a key from its value. White space separates them as well, but is dealt
with on its own. -/
def isSeparator (c : Char) : Bool :=
  c == '=' || c == ':'

/-- The key at the start of a logical line, and what follows it. A separator with a backslash in
front is part of the key. -/
def scanKey : List Char → List Char × List Char
  | [] => ([], [])
  | ['\\'] => ([], [])
  | '\\' :: c :: cs =>
    let (key, rest) := scanKey cs
    (unescape c :: key, rest)
  | c :: cs =>
    if isSeparator c || Text.isBlank c then ([], c :: cs)
    else
      let (key, rest) := scanKey cs
      (c :: key, rest)

/-- The text without white space, at most one separator, and white space behind it. A second
separator is part of the value. -/
def dropSeparator (cs : List Char) : List Char :=
  match Text.trimStart cs with
  | [] => []
  | c :: rest => if isSeparator c then Text.trimStart rest else c :: rest

/-- The key and the value of a logical line whose key is not empty. A line without a separator has
the empty value. -/
def entry? (line : List Char) : Option (String × String) :=
  let (key, rest) := scanKey line
  if key.isEmpty then none
  else some (String.ofList key, String.ofList (unescapeAll (dropSeparator rest)))

/-! ### Files -/

/-- The entries of a file in order. Of several entries with one key all are kept; a lookup takes the
last. -/
def parse (content : String) : List (String × String) :=
  (logicalLines [] (Text.lines content.toList)).filterMap entry?

/-- The parts of a text between commas, without white space around them, those that are empty left
out. -/
def commaSeparated (text : String) : List String :=
  ((Text.pieces (· == ',') text).map Text.trim).filter (!·.isEmpty)

/-- The values that a file lists under a key, in order. The key may occur several times, and then
the lists follow one another. -/
def listed (content key : String) : List String :=
  ((parse content).filter (·.1 == key)).flatMap fun entry => commaSeparated entry.2

end StaticWiring.Properties
