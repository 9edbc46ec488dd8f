import StaticWiring.Toml.Scalar

/-!
# Documents of TOML

A document is a sequence of lines: entries `key = value`, and headers that open a table, or the next
table of an array. Keys may be dotted paths through tables. A table is defined once: by a header, by
dotted keys, or inline; a table that only a longer header mentions may still be opened by its own
header. The value of a document is an object.

## Main definitions

* `Toml.Node`, `Toml.within?` — tables under construction.
* `Toml.scanKey?`, `Toml.scanValue?` — keys and values at the start of a text.
* `Toml.parse?` — the value of a document.
-/

namespace StaticWiring.Toml

/-! ### Tables under construction -/

/-- How a table came to be. It decides which later lines may still extend the table. -/
inductive Definedness where
  /-- It is mentioned by the header of another table. -/
  | mentioned
  /-- It has a header. -/
  | header
  /-- It is defined by dotted keys. -/
  | dotted
deriving DecidableEq

/-- What stands under a key. It is richer than the value in the end, as lines may still follow. -/
inductive Node where
  /-- A value that cannot be extended. -/
  | value (value : Json)
  /-- A table. -/
  | table (how : Definedness) (members : List (String × Node))
  /-- An array of tables, the last first. -/
  | tables (elements : List (List (String × Node)))

/-- The members of a table with the way in which it came to be. The open table of a document is
given by both. -/
abbrev Members := Definedness × List (String × Node)

/-- The members with another node under a key that they have. The key keeps its place. -/
def replaceNode (key : String) (node : Node) : List (String × Node) → List (String × Node)
  | [] => []
  | (k, n) :: members =>
    if k == key then (k, node) :: members else (k, n) :: replaceNode key node members

/-- A table changed behind a path, on which missing tables are added as `how` tells. A path through
an array of tables leads into its last table; a dotted path leads into no table with a header. -/
def within? (how : Definedness) (change : Members → Option Members) :
    List String → Members → Option Members
  | [], members => change members
  | key :: path, (own, members) =>
    match members.lookup key with
    | none => do
      let (_, inner) ← within? how change path (how, [])
      return (own, members ++ [(key, .table how inner)])
    | some (.value _) => none
    | some (.tables []) => none
    | some (.tables (last :: before)) => do
      let (_, inner) ← within? how change path (.header, last)
      return (own, replaceNode key (.tables (inner :: before)) members)
    | some (.table innerHow inner) =>
      if how = .dotted ∧ innerHow = .header then none
      else do
        let (innerHow, inner) ← within? how change path (innerHow, inner)
        return (own, replaceNode key (.table innerHow inner) members)

/-- A table with a value under a key that it lacks, at the end of a dotted path. A value never
replaces another one. -/
def addEntry (path : List String) (key : String) (value : Json) : Members → Option Members :=
  within? .dotted (fun (how, members) =>
    if (path.isEmpty || how = .dotted) && (members.lookup key).isNone then
      some (how, members ++ [(key, .value value)])
    else none) path

/-- A table with a table under a key that has no header yet. A table that is only mentioned so far
gets its header; any other node under the key is an error. -/
def openTable (path : List String) (key : String) : Members → Option Members :=
  within? .mentioned (fun (how, members) =>
    match members.lookup key with
    | none => some (how, members ++ [(key, .table .header [])])
    | some (.table .mentioned inner) =>
      some (how, replaceNode key (.table .header inner) members)
    | _ => none) path

/-- A table with one more table in the array under a key. A key with any other node is an error. -/
def openNext (path : List String) (key : String) : Members → Option Members :=
  within? .mentioned (fun (how, members) =>
    match members.lookup key with
    | none => some (how, members ++ [(key, .tables [[]])])
    | some (.tables elements) => some (how, replaceNode key (.tables ([] :: elements)) members)
    | _ => none) path

mutual

/-- The value of a node. An array of tables is put back into the order of the text. -/
def Node.toJson : Node → Json
  | .value v => v
  | .table _ members => .object (membersToJson members)
  | .tables elements => .array (elementsToJson elements).reverse

/-- The values of the members of a table. They keep the order in which the keys were first
mentioned. -/
def membersToJson : List (String × Node) → List (String × Json)
  | [] => []
  | (key, node) :: members => (key, node.toJson) :: membersToJson members

/-- The values of the tables of an array. They keep the order in which they are given. -/
def elementsToJson : List (List (String × Node)) → List Json
  | [] => []
  | element :: elements => .object (membersToJson element) :: elementsToJson elements

end

/-! ### Keys -/

/-- The characters of keys without quotes. Letters are those of ASCII. -/
def isKeyChar (c : Char) : Bool :=
  c.isAlphanum || c = '-' || c = '_'

/-- One segment of a key at the start of a text. It may be in quotes of either kind, and then hold
any character. -/
def scanSegment? (cs : List Char) : Option (String × List Char) :=
  match cs with
  | '"' :: rest => (scanBasic rest).map fun (key, rest) => (String.ofList key, rest)
  | '\'' :: rest => (scanLiteral rest).map fun (key, rest) => (String.ofList key, rest)
  | _ =>
    let key := cs.takeWhile isKeyChar
    if key.isEmpty then none else some (String.ofList key, cs.dropWhile isKeyChar)

/-- The number of segments of keys and the nesting of values stay below this limit. Deeper documents
are refused rather than read. -/
def nestingLimit : Nat :=
  80

/-- A key of at most `limit` segments at the start of a text, with the white space behind it. Dots
separate the segments, with white space around them. -/
def scanSegments? : (limit : Nat) → List Char → Option (List String × List Char)
  | 0, _ => none
  | limit + 1, cs => do
    let (segment, rest) ← scanSegment? (cs.dropWhile isSpace)
    match rest.dropWhile isSpace with
    | '.' :: rest => do
      let (segments, rest) ← scanSegments? limit rest
      return (segment :: segments, rest)
    | rest => some ([segment], rest)

/-- A key at the start of a text: its path, its last segment and what follows. The path is empty for
a key of one segment. -/
def scanKey? (cs : List Char) : Option (List String × String × List Char) := do
  let (segments, rest) ← scanSegments? (nestingLimit - 1) cs
  return (segments.dropLast, ← segments.getLast?, rest)

/-! ### Values -/

/-- The text without white space, comments and ends of lines at its start. There is none if a
comment holds a control character. -/
def skipTrivia (inComment : Bool) : List Char → Option (List Char)
  | [] => some []
  | '\r' :: '\n' :: rest => skipTrivia false rest
  | '\n' :: rest => skipTrivia false rest
  | c :: rest =>
    if inComment then if isPrintable c then skipTrivia true rest else none
    else if isSpace c then skipTrivia false rest
    else if c = '#' then skipTrivia true rest
    else some (c :: rest)

mutual

/-- A value nested in `depth` others at the start of a text, with what follows it. The first number
bounds the steps. -/
def scanValue? : (steps depth : Nat) → List Char → Option (Json × List Char)
  | 0, _, _ => none
  | steps + 1, depth, cs =>
    match cs with
    | '[' :: rest =>
      if depth + 1 < nestingLimit then do
        let (items, rest) ← scanItems? steps (depth + 1) rest
        return (.array items, rest)
      else none
    | '\x7b' :: rest =>
      if depth + 1 < nestingLimit then
        match rest.dropWhile isSpace with
        | '\x7d' :: rest => some (.object [], rest)
        | rest => do
          let ((_, members), rest) ← scanEntries? steps (depth + 1) (.header, []) rest
          return (.object (membersToJson members), rest)
      else none
    | '"' :: _ => (scanString? cs).map fun (value, rest) => (.string (String.ofList value), rest)
    | '\'' :: _ => (scanString? cs).map fun (value, rest) => (.string (String.ofList value), rest)
    | _ => do
      let (word, rest) := scanWord cs
      return (← wordValue? word, rest)

/-- The items of an array up to its closing bracket, with what follows it. There may be a comma
behind the last item, and ends of lines between items. -/
def scanItems? : (steps depth : Nat) → List Char → Option (List Json × List Char)
  | 0, _, _ => none
  | steps + 1, depth, cs => do
    match ← skipTrivia false cs with
    | ']' :: rest => some ([], rest)
    | cs => do
      let (item, rest) ← scanValue? steps depth cs
      match ← skipTrivia false rest with
      | ']' :: rest => some ([item], rest)
      | ',' :: rest => do
        let (items, rest) ← scanItems? steps depth rest
        return (item :: items, rest)
      | _ => none

/-- The entries of an inline table up to its closing brace, behind those of `members`. The whole
table stands in one line, without a comma behind the last entry. -/
def scanEntries? : (steps depth : Nat) → Members → List Char → Option (Members × List Char)
  | 0, _, _, _ => none
  | steps + 1, depth, members, cs => do
    let (path, key, rest) ← scanKey? cs
    let (value, rest) ← scanValue? steps depth ((← behind? '=' rest).dropWhile isSpace)
    let members ← addEntry path key value members
    match rest.dropWhile isSpace with
    | '\x7d' :: rest => some (members, rest)
    | ',' :: rest => scanEntries? steps depth members rest
    | _ => none

end

/-! ### Documents -/

/-- What follows the end of a line, which may hold a comment. The text may end there as well. -/
def endLine? (cs : List Char) : Option (List Char) :=
  match cs.dropWhile isSpace with
  | [] => some []
  | '#' :: rest =>
    match rest.dropWhile isPrintable with
    | [] => some []
    | rest => afterNewline? rest
  | rest => afterNewline? rest

/-- The root table after the lines of a text, with the open table behind the path `current`. The
first number bounds the steps. -/
def scanLines? : (steps : Nat) → (current : List String) → Members → List Char → Option Members
  | 0, _, _, _ => none
  | steps + 1, current, root, cs =>
    match cs.dropWhile isSpace with
    | [] => some root
    | '[' :: '[' :: rest => do
      let (path, key, rest) ← scanKey? rest
      let rest ← endLine? (← behind? ']' (← behind? ']' rest))
      scanLines? steps (path ++ [key]) (← openNext path key root) rest
    | '[' :: rest => do
      let (path, key, rest) ← scanKey? rest
      let rest ← endLine? (← behind? ']' rest)
      scanLines? steps (path ++ [key]) (← openTable path key root) rest
    | c :: cs =>
      if c = '#' || c = '\n' || c = '\r' then do
        scanLines? steps current root (← endLine? (c :: cs))
      else do
        let (path, key, rest) ← scanKey? (c :: cs)
        let (value, rest) ←
          scanValue? (rest.length + 1) 0 ((← behind? '=' rest).dropWhile isSpace)
        let root ← within? .mentioned (addEntry path key value) current root
        scanLines? steps current root (← endLine? rest)

/-- The text without a byte order mark at its start. Only one is dropped. -/
def dropMark : List Char → List Char
  | '\ufeff' :: cs => cs
  | cs => cs

/-- The value of a document. There is none if a single line is wrong. -/
def parse? (text : String) : Option Json := do
  let cs := dropMark text.toList
  let (_, members) ← scanLines? (cs.length + 1) [] (.header, []) cs
  return .object (membersToJson members)

end StaticWiring.Toml
