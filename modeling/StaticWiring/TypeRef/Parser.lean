import StaticWiring.Text.Blank
import StaticWiring.TypeRef.Basic

/-!
# Reading type references

The text of a type reference is a name, and behind it, between angle brackets, its type arguments
separated by commas. White space may stand around names, brackets and commas. The reader goes
through the text once; the argument lists that are open are a stack of names with the arguments read
so far.

## Main definitions

* `TypeRef.Malformed`, `TypeRef.Malformed.message` — why a text is no type reference.
* `TypeRef.isNameChar` — the characters of names.
* `TypeRef.parse` — the type reference of a text.
-/

namespace StaticWiring.TypeRef

/-! ### Failures -/

/-- What is wrong with a text that is no type reference. Only the first thing that is wrong is
reported. -/
inductive Fault where
  /-- There is no name where a type reference should start. -/
  | missingName
  /-- A list of type arguments is not closed. -/
  | openArguments
  /-- Something follows the type reference. -/
  | trailing
deriving DecidableEq

/-- The words for a fault. They stand at the end of the message. -/
def Fault.reason : Fault → String
  | missingName => "expected a type name"
  | openArguments => "unterminated generic argument list"
  | trailing => "trailing characters"

/-- A text that is no type reference. The input is kept whole, as the user has to find it. -/
structure Malformed where
  /-- The whole text. -/
  input : String
  /-- What is wrong with it. -/
  fault : Fault
deriving DecidableEq

/-- The message for a text that is no type reference. It shows the text as it was given. -/
def Malformed.message (e : Malformed) : String :=
  "invalid type reference `" ++ e.input ++ "`: " ++ e.fault.reason

/-! ### Reading -/

/-- The characters of names: all but angle brackets, the comma and white space. Question marks and
brackets of arrays are therefore part of names. -/
def isNameChar (c : Char) : Bool :=
  c != '<' && c != '>' && c != ',' && !Text.isBlank c

/-- An open list of type arguments. The lists that are open around a position are a stack, the
innermost first. -/
structure OpenList where
  /-- The name before the bracket. -/
  name : String
  /-- The arguments read so far, the last first. -/
  arguments : List TypeRef

/-- The name at the start of a text, behind white space. It is empty if something else stands there.
-/
def nameOf (cs : List Char) : List Char :=
  (Text.trimStart cs).takeWhile isNameChar

/-- What follows the name at the start of a text and the white space behind it. It is where a list
of arguments may start. -/
def afterName (cs : List Char) : List Char :=
  Text.trimStart ((Text.trimStart cs).dropWhile isNameChar)

theorem length_trimStart_le (cs : List Char) : (Text.trimStart cs).length ≤ cs.length :=
  (List.dropWhile_sublist _).length_le

theorem length_afterName_lt {cs : List Char} (h : nameOf cs ≠ []) :
    (afterName cs).length < cs.length := by
  have split := congrArg List.length
    (List.takeWhile_append_dropWhile (p := isNameChar) (l := Text.trimStart cs))
  have pos := List.length_pos_iff.2 h
  have trimmed := length_trimStart_le cs
  have rest := length_trimStart_le ((Text.trimStart cs).dropWhile isNameChar)
  simp only [List.length_append, nameOf, afterName] at *
  omega

mutual

/-- Reads a type reference at the start of `cs`, inside the open lists `stack`. An opening bracket
behind the name opens another list. -/
def readRef (stack : List OpenList) (cs : List Char) : Except Fault TypeRef :=
  if h : nameOf cs = [] then .error .missingName
  else
    have := length_afterName_lt h
    match hc : afterName cs with
    | '<' :: rest =>
      have : rest.length < cs.length := by
        rw [hc, List.length_cons] at this
        omega
      readRef (⟨String.ofList (nameOf cs), []⟩ :: stack) rest
    | rest =>
      have : rest.length < cs.length := hc ▸ this
      readBehind (raw (String.ofList (nameOf cs))) stack rest
termination_by cs.length

/-- Reads on behind the complete reference `t`, which is an argument of the innermost open list. A
closing bracket completes the reference in front of the list, and the reading goes on behind that.
-/
def readBehind (t : TypeRef) (stack : List OpenList) (cs : List Char) : Except Fault TypeRef :=
  have := length_trimStart_le cs
  match stack, hc : Text.trimStart cs with
  | [], [] => .ok t
  | [], _ :: _ => .error .trailing
  | ⟨name, arguments⟩ :: stack, ',' :: rest =>
    have : rest.length < cs.length := by
      rw [hc, List.length_cons] at this
      omega
    readRef (⟨name, t :: arguments⟩ :: stack) rest
  | ⟨name, arguments⟩ :: stack, '>' :: rest =>
    have : rest.length < cs.length := by
      rw [hc, List.length_cons] at this
      omega
    readBehind ⟨name, (t :: arguments).reverse⟩ stack rest
  | _ :: _, _ => .error .openArguments
termination_by cs.length

end

/-- The type reference of a text. White space around names and brackets plays no part. -/
def parse (text : String) : Except Malformed TypeRef :=
  (readRef [] text.toList).mapError (⟨text, ·⟩)

end StaticWiring.TypeRef
