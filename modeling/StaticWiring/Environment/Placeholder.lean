import StaticWiring.Environment.Basic

/-!
# Placeholders

A placeholder `${key}` or `${key:default}` stands for the value of a property, or for its default if
there is no such property. Placeholders may stand in keys, in defaults and in the values of
properties. A placeholder that is not closed stands for itself. Placeholders nest below a fixed
depth, which ends the expansion of properties that mention themselves.

## Main definitions

* `Placeholder.findOpen`, `Placeholder.closing`, `Placeholder.splitDefault` — the parts of a text
  with placeholders.
* `PlaceholderError` — a placeholder without value and default.
* `Environment.expand`, `Environment.resolve` — a text with its placeholders replaced.
* `Environment.resolved?` — the value of a property with its placeholders replaced.
-/

namespace StaticWiring

namespace Placeholder

/-! ### The parts of a text -/

/-- What precedes and what follows the first opening of a placeholder. A dollar sign alone opens
nothing. -/
def findOpen : List Char → Option (List Char × List Char)
  | [] => none
  | '$' :: '\x7b' :: cs => some ([], cs)
  | c :: cs =>
    match findOpen cs with
    | some (before, inner) => some (c :: before, inner)
    | none => none

/-- What precedes and what follows the brace that closes a placeholder, with `depth` placeholders
open inside it. -/
def closing (depth : Nat) : List Char → Option (List Char × List Char)
  | [] => none
  | '$' :: '\x7b' :: cs =>
    match closing (depth + 1) cs with
    | some (body, after) => some ('$' :: '\x7b' :: body, after)
    | none => none
  | c :: cs =>
    if c = '\x7d' then
      match depth with
      | 0 => some ([], cs)
      | depth + 1 =>
        match closing depth cs with
        | some (body, after) => some (c :: body, after)
        | none => none
    else
      match closing depth cs with
      | some (body, after) => some (c :: body, after)
      | none => none

/-- The key and the default of a placeholder's body: they stand around the first colon outside
`depth` placeholders. -/
def splitDefault (depth : Nat) : List Char → List Char × Option (List Char)
  | [] => ([], none)
  | '$' :: '\x7b' :: cs =>
    let (key, default) := splitDefault (depth + 1) cs
    ('$' :: '\x7b' :: key, default)
  | c :: cs =>
    if c = ':' ∧ depth = 0 then ([], some cs)
    else
      let (key, default) := splitDefault (if c = '\x7d' then depth - 1 else depth) cs
      (c :: key, default)

theorem eq_of_findOpen {cs before inner : List Char} (h : findOpen cs = some (before, inner)) :
    cs = before ++ '$' :: '\x7b' :: inner := by
  fun_induction findOpen cs generalizing before <;> grind

theorem eq_of_closing {depth : Nat} {cs body after : List Char}
    (h : closing depth cs = some (body, after)) : cs = body ++ '\x7d' :: after := by
  fun_induction closing depth cs generalizing body <;> grind

theorem length_key_le (depth : Nat) (cs : List Char) :
    (splitDefault depth cs).1.length ≤ cs.length := by
  fun_induction splitDefault depth cs <;> grind

theorem lengths_lt {cs before inner body after : List Char}
    (hOpen : findOpen cs = some (before, inner)) (hClose : closing 0 inner = some (body, after)) :
    (splitDefault 0 body).1.length < cs.length ∧ after.length < cs.length := by
  have hkey := length_key_le 0 body
  rw [eq_of_findOpen hOpen, eq_of_closing hClose]
  simp only [List.length_append, List.length_cons]
  omega

/-- The depth below which placeholders may nest. It ends the replacement where properties refer to
each other in a circle. -/
def maxDepth : Nat :=
  32

end Placeholder

/-! ### Expansion -/

/-- A placeholder without value and default. The error carries the whole text, since the key may
stem from a value met on the way. -/
structure PlaceholderError where
  /-- The key. -/
  placeholder : String
  /-- The text in which it was to be replaced. -/
  value : String
deriving DecidableEq, Inhabited

/-- The message for a placeholder without value and default. It names the key and the text that the
user has written. -/
def PlaceholderError.message (e : PlaceholderError) : String :=
  "could not resolve placeholder '" ++ e.placeholder ++ "' in value \"" ++ e.value ++ "\""

namespace Environment

open Placeholder

/-- What a placeholder stands for before its own placeholders are replaced: the value of the
property, or else the default. -/
def replacement? (env : Environment) (key : List Char) (default : Option (List Char)) :
    Option (List Char) :=
  match env.get? (String.ofList key) with
  | some value => some value.toList
  | none => default

/-- The text `cs`, met at nesting level `depth` on the way through `whole`, with its placeholders
replaced. A key, a default and the value of a property are one level deeper. -/
def expand (env : Environment) (whole : String) (depth : Nat) (cs : List Char) :
    Except PlaceholderError (List Char) :=
  match hOpen : findOpen cs with
  | none => .ok cs
  | some (before, inner) =>
    match hClose : closing 0 inner with
    | none => .ok cs
    | some (body, after) =>
      have := lengths_lt hOpen hClose
      match expand env whole (depth + 1) (splitDefault 0 body).1 with
      | .error e => .error e
      | .ok key =>
        if maxDepth ≤ depth then .error ⟨String.ofList key, whole⟩
        else
          match env.replacement? key (splitDefault 0 body).2 with
          | none => .error ⟨String.ofList key, whole⟩
          | some text =>
            match expand env whole (depth + 1) text with
            | .error e => .error e
            | .ok value =>
              match expand env whole depth after with
              | .error e => .error e
              | .ok rest => .ok (before ++ value ++ rest)
termination_by (maxDepth - depth, cs.length)
decreasing_by
  · rcases Nat.lt_or_ge depth maxDepth with h | h
    · exact Prod.Lex.left _ _ (by omega)
    · rw [show maxDepth - (depth + 1) = maxDepth - depth by omega]
      exact Prod.Lex.right _ this.1
  · exact Prod.Lex.left _ _ (by omega)
  · exact Prod.Lex.right _ this.2

/-- A text with its placeholders replaced. The text is its own whole, at nesting level zero. -/
def resolve (env : Environment) (text : String) : Except PlaceholderError String :=
  (env.expand text 0 text.toList).map String.ofList

/-- A text without placeholders stands for itself. Most texts are of this kind, and for them the
environment plays no part. -/
theorem resolve_of_findOpen_eq_none (env : Environment) {text : String}
    (h : findOpen text.toList = none) : env.resolve text = .ok text := by
  have expanded : env.expand text 0 text.toList = .ok text.toList := by
    rw [expand]
    split
    · rfl
    · next found =>
      rw [h] at found
      cases found
  rw [resolve, expanded]
  exact congrArg Except.ok String.ofList_toList

/-- The value of a property with its placeholders replaced. A property that is absent is no error,
but one whose placeholders cannot be replaced is. -/
def resolved? (env : Environment) (key : String) : Except PlaceholderError (Option String) :=
  match env.get? key with
  | none => .ok none
  | some value => (env.resolve value).map some

end Environment

end StaticWiring
