import StaticWiring.Java.Scope
import StaticWiring.Text.Cut

/-!
# Java files

A Java file has a header line, its package, its imports in ascending order, and the lines of its
class, indented by two blanks per level.

## Main definitions

* `Java.indent` — lines one level deeper.
* `Java.docLines` — a documentation comment.
* `Java.assemble` — the text of a file.
* `Java.CompilationUnit` — a file that is written line by line.
-/

namespace StaticWiring.Java

/-! ### Lines -/

/-- The indentation of a level. A level is two blanks. -/
def indentation (level : Nat) : String :=
  String.join (List.replicate level "  ")

/-- Lines so many levels deeper. The order of the lines stays. -/
def indent (level : Nat) (lines : List String) : List String :=
  lines.map (indentation level ++ ·)

/-- One line of a documentation comment. An empty line has no blank at its end. -/
def docLine (line : List Char) : String :=
  if line.isEmpty then " *" else " * " ++ String.ofList line

/-- The lines of a documentation comment. There is one for each line of the text, besides the
opening and the closing one. -/
def docLines (text : String) : List String :=
  "/**" :: (Text.lines text.toList).map docLine ++ [" */"]

/-- Lines, each with its end. The last line has one as well, so that every file ends with a line
feed. -/
def unlines (lines : List String) : String :=
  String.join (lines.map (· ++ "\n"))

/-! ### Files -/

/-- The first line of every generated file. It warns the reader that changes will be lost. -/
def header : String :=
  "// Generated by aot-codegen. Do not edit."

/-- The lines with the package of a file. There is none in the unnamed package. -/
def packageLines (package : String) : List String :=
  if package.isEmpty then [] else ["package " ++ package ++ ";"]

/-- The lines with the imports of a file. A blank line behind them sets them apart from the class;
without imports there is neither. -/
def importLines (imports : List String) : List String :=
  if imports.isEmpty then [] else imports.map (fun type => "import " ++ type ++ ";") ++ [""]

/-- The text of a file with the lines of its class. The imports are those of all types that have
taken a short name. -/
def assemble (scope : Scope) (lines : List String) : String :=
  unlines (header :: packageLines scope.package ++ "" :: importLines scope.imports ++ lines)

/-- A file that is written line by line. The level spares its user to count the blocks that are
open. -/
structure CompilationUnit where
  /-- The short names. -/
  scope : Scope
  /-- The level of the next line. -/
  level : Nat := 0
  /-- The lines of the class so far. -/
  lines : List String := []
deriving DecidableEq, Inhabited

namespace CompilationUnit

/-- The file of a class without any line. No short name is taken but that of the class. -/
def new (package className : String) : CompilationUnit :=
  { scope := { package, className } }

/-- The file with further lines at the present level. -/
def add (u : CompilationUnit) (lines : List String) : CompilationUnit :=
  { u with lines := u.lines ++ indent u.level lines }

/-- The file with one more line, and the next one a level deeper. -/
def opening (u : CompilationUnit) (line : String) : CompilationUnit :=
  { u.add [line] with level := u.level + 1 }

/-- The file with one more line a level higher. The level falls before the line is added, so that a
brace stands below the line that it closes. -/
def closing (u : CompilationUnit) (line : String) : CompilationUnit :=
  { u with level := u.level - 1 }.add [line]

/-- The lines of the class so far as text. It is without header, package and imports. -/
def body (u : CompilationUnit) : String :=
  unlines u.lines

/-- The text of the file. Header, package and imports are put in front of the lines. -/
def text (u : CompilationUnit) : String :=
  assemble u.scope u.lines

end CompilationUnit

end StaticWiring.Java
