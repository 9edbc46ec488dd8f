import StaticWiring.Json.Token

/-!
# Reading JSON

The tokens of a text are read one by one. What is open is a stack of arrays and objects, each with
what it holds so far; a finished value goes into the container on top, and a text is a value if it
leaves one finished value and no open container. A string that is no text may stand wherever a
string may.

## Main definitions

* `Json.Frame` — an open array or object.
* `Json.Expectation` — what may come next.
* `Json.Reading`, `Json.Reading.step` — the state between two tokens, and one token.
* `Json.read?` — the value of a text.
-/

namespace StaticWiring.Json

/-- An open container with what it holds so far, the last first. Holding the last item first makes
adding one more a step at the front. -/
inductive Frame where
  /-- An array. -/
  | array (items : List Json)
  /-- An object between two members. -/
  | object (members : List (Option String × Json))
  /-- An object whose member `key` has no value yet. -/
  | member (members : List (Option String × Json)) (key : Option String)

/-- What the next token may be. It rules out a comma before the end of a container, and anything
behind a complete value. -/
inductive Expectation where
  /-- The start of a value. -/
  | value
  /-- The start of a value, or the end of the empty array. -/
  | firstItem
  /-- A key, or the end of the empty object. -/
  | firstKey
  /-- A key. -/
  | key
  /-- The colon behind a key. -/
  | colon
  /-- A comma, or the end of the container on top. -/
  | separator
  /-- Nothing: the value is complete. -/
  | done (value : Json)

/-- The state between two tokens. It is all that is known of the tokens read so far. -/
structure Reading where
  /-- The open containers, the innermost first. -/
  stack : List Frame
  /-- What the next token may be. -/
  expected : Expectation

namespace Reading

/-- The state before the first token. A value is expected, and no container is open. -/
def start : Reading :=
  ⟨[], .value⟩

/-- A value is complete and goes into the container on top. If no container is open, the whole text
is complete. -/
def put (value : Json) : List Frame → Option Reading
  | [] => some ⟨[], .done value⟩
  | .array items :: stack => some ⟨.array (value :: items) :: stack, .separator⟩
  | .member members key :: stack => some ⟨.object ((key, value) :: members) :: stack, .separator⟩
  | .object _ :: _ => none

/-- The value that a string denotes. A string with an escape that denotes no character makes the
value ill-formed. -/
def ofText : Option String → Json
  | some text => .string text
  | none => .illFormed

/-- The object with these members. A key that denotes no text makes the whole object ill-formed. -/
def ofMembers (members : List (Option String × Json)) : Json :=
  match members.mapM fun (key, value) => key.map (·, value) with
  | some members => .object members
  | none => .illFormed

/-- A token at the start of a value. Any token but those four is out of place there. -/
def beginValue (stack : List Frame) : Token → Option Reading
  | .scalar value => put value stack
  | .string text => put (ofText text) stack
  | .openArray => some ⟨.array [] :: stack, .firstItem⟩
  | .openObject => some ⟨.object [] :: stack, .firstKey⟩
  | _ => none

/-- One token. There is no state behind a token that is out of place. -/
def step (r : Reading) (token : Token) : Option Reading :=
  match r.expected, token, r.stack with
  | .value, token, stack => beginValue stack token
  | .firstItem, .closeArray, .array [] :: stack => put (.array []) stack
  | .firstItem, token, stack => beginValue stack token
  | .firstKey, .closeObject, .object [] :: stack => put (.object []) stack
  | .firstKey, .string key, .object members :: stack => some ⟨.member members key :: stack, .colon⟩
  | .key, .string key, .object members :: stack => some ⟨.member members key :: stack, .colon⟩
  | .colon, .colon, stack => some ⟨stack, .value⟩
  | .separator, .comma, .array items :: stack => some ⟨.array items :: stack, .value⟩
  | .separator, .comma, .object members :: stack => some ⟨.object members :: stack, .key⟩
  | .separator, .closeArray, .array items :: stack => put (.array items.reverse) stack
  | .separator, .closeObject, .object members :: stack => put (ofMembers members.reverse) stack
  | _, _, _ => none

/-- The tokens one by one. The first token that is out of place ends the run without a state. -/
def run : Reading → List Token → Option Reading
  | r, [] => some r
  | r, token :: tokens => (r.step token).bind (run · tokens)

/-- The complete value, if there is one. It is there only when all containers are closed. -/
def value? (r : Reading) : Option Json :=
  match r.expected with
  | .done value => some value
  | _ => none

theorem run_append (r : Reading) (s t : List Token) :
    r.run (s ++ t) = (r.run s).bind (·.run t) := by
  induction s generalizing r with
  | nil => rfl
  | cons token s ih =>
    simp only [List.cons_append, run]
    cases r.step token with
    | none => rfl
    | some r' => exact ih r'

end Reading

/-- The value of a text that holds one JSON value. A text with several values, or with something
behind the first one, holds none. -/
def read? (text : String) : Option Json := do
  let tokens ← Token.scan text.toList
  (← Reading.start.run tokens).value?

end StaticWiring.Json
