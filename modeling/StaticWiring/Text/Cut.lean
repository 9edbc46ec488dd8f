/-!
# Cutting texts

Texts are cut at separators, at the ends of lines, and behind a given beginning. A line ends at a
line feed; one carriage return before the line feed belongs to the line's end, and a text that ends
with a line feed has no further line behind it.

## Main definitions

* `Text.splitOn` — the pieces of a text between its separators, at least one.
* `Text.cutAt` — what precedes and what follows the first separator.
* `Text.lines` — the lines of a text.
* `Text.stripStart?`, `Text.startsWith`, `Text.endsWith` — beginnings and ends of texts.

## Main results

* `Text.intercalate_splitOn` — the pieces joined by their separator are the text.
-/

namespace StaticWiring.Text

/-! ### Separators -/

/-- The pieces of a text between the characters that satisfy `isSeparator`. Separators next to each
other have an empty piece between them. -/
def splitOn (isSeparator : Char → Bool) : List Char → List (List Char)
  | [] => [[]]
  | c :: cs =>
    if isSeparator c then [] :: splitOn isSeparator cs
    else match splitOn isSeparator cs with
      | [] => [[c]]
      | piece :: pieces => (c :: piece) :: pieces

/-- A text has at least one piece. The empty text is its own only piece. -/
theorem splitOn_ne_nil (isSeparator : Char → Bool) (cs : List Char) :
    splitOn isSeparator cs ≠ [] := by
  cases cs with
  | nil => simp [splitOn]
  | cons c cs =>
    simp only [splitOn]
    split
    · simp
    · split <;> simp

/-- The pieces of a text, joined by their separator, are the text. Nothing is lost but which
characters separated the pieces, and here there is only one. -/
theorem intercalate_splitOn (sep : Char) (cs : List Char) :
    List.intercalate [sep] (splitOn (· == sep) cs) = cs := by
  induction cs with
  | nil => rfl
  | cons c cs ih =>
    simp only [splitOn]
    split
    · next h =>
      have hc : c = sep := by simpa using h
      obtain ⟨piece, pieces, hp⟩ := List.exists_cons_of_ne_nil (splitOn_ne_nil (· == sep) cs)
      rw [hp] at ih ⊢
      subst hc
      simpa [List.intercalate] using ih
    · split
      · next hp => exact absurd hp (splitOn_ne_nil _ _)
      · next piece pieces hp =>
        rw [hp] at ih
        cases pieces <;> simpa [List.intercalate] using ih

/-- The pieces of a text between separators, as texts. It is the form in which paths, packages and
lists are cut. -/
def pieces (isSeparator : Char → Bool) (s : String) : List String :=
  (splitOn isSeparator s.toList).map String.ofList

/-- What precedes and what follows the first character that satisfies `isSeparator`. Later
separators stay in what follows. -/
def cutAt (isSeparator : Char → Bool) : List Char → Option (List Char × List Char)
  | [] => none
  | c :: cs =>
    if isSeparator c then some ([], cs)
    else (cutAt isSeparator cs).map fun (before, after) => (c :: before, after)

/-! ### Lines -/

/-- A line without the carriage return at its end. At most one is dropped. -/
def dropCarriageReturn (line : List Char) : List Char :=
  if line.getLast? = some '\r' then line.dropLast else line

/-- The lines of a text given as the pieces between its line feeds: the last piece is a line only
if it is not empty, and keeps its carriage return. -/
def linesOfPieces : List (List Char) → List (List Char)
  | [] => []
  | [last] => if last.isEmpty then [] else [last]
  | piece :: pieces => dropCarriageReturn piece :: linesOfPieces pieces

/-- The lines of a text. A line feed at the end of the text does not start another line. -/
def lines (cs : List Char) : List (List Char) :=
  linesOfPieces (splitOn (· == '\n') cs)

/-! ### Beginnings and ends -/

/-- What follows `start` in a text that begins with it. There is none if the text begins
differently. -/
def stripStart? : (start : List Char) → List Char → Option (List Char)
  | [], cs => some cs
  | _ :: _, [] => none
  | a :: start, c :: cs => if a = c then stripStart? start cs else none

/-- A text is its beginning followed by the rest. It says that nothing but the beginning was
dropped. -/
theorem stripStart?_eq_some_iff {start cs rest : List Char} :
    stripStart? start cs = some rest ↔ cs = start ++ rest := by
  induction start generalizing cs with
  | nil => simp [stripStart?]
  | cons a start ih =>
    cases cs with
    | nil => simp [stripStart?]
    | cons c cs => by_cases h : a = c <;> simp [stripStart?, h, ih, eq_comm]

/-- The text begins with `start`. Every text begins with the empty one. -/
def startsWith (start s : String) : Bool :=
  start.toList.isPrefixOf s.toList

/-- The text ends with `tail`. Every text ends with the empty one. -/
def endsWith (tail s : String) : Bool :=
  tail.toList.isSuffixOf s.toList

/-- The text with every character `a` replaced by `b`. All other characters stay in their places. -/
def replace (a b : Char) (s : String) : String :=
  String.ofList (s.toList.map fun c => if c = a then b else c)

end StaticWiring.Text
