/-!
# JSON values

A JSON value keeps the order of the members of its objects, and keeps members that share a key.
Integers are numbers of unbounded size; a number with a fraction or an exponent is kept as it is
written. A string may be written with half of a surrogate pair alone. It is then no text, and
nothing but the fact is kept.

## Main definitions

* `Json` — JSON values.
* `Json.strings` — an array of strings.
* `Json.ofOption` — a value or `null`.
-/

namespace StaticWiring

/-- A JSON value. Numbers with a fraction are kept as written, since no precision may be lost when a
value is passed on. -/
inductive Json where
  /-- The value `null`. -/
  | null
  /-- `true` or `false`. -/
  | bool (value : Bool)
  /-- An integer. -/
  | number (value : Int)
  /-- A number with a fraction or an exponent, or a negative zero, as written. -/
  | fraction (lexeme : String)
  /-- A string. -/
  | string (value : String)
  /-- A string that is no text, or an object with such a key. -/
  | illFormed
  /-- An array. -/
  | array (items : List Json)
  /-- An object with its members in order. -/
  | object (members : List (String × Json))
deriving Inhabited, BEq

namespace Json

/-- An array of strings. They keep their order. -/
def strings (values : List String) : Json :=
  array (values.map string)

/-- The value of an optional part: `null` where it is absent. An absent part is not left out. -/
def ofOption {α : Type} (encode : α → Json) : Option α → Json
  | none => null
  | some a => encode a

/-- A natural number. It is written without a sign. -/
def nat (n : Nat) : Json :=
  number n

/-- The value is an array. It is asked where a single value may stand for an array of one. -/
def isArray : Json → Bool
  | array _ => true
  | _ => false

/-- The value of the last member with a key. An object may repeat a key, and then the last member is
the one that counts. -/
def member? (key : String) : Json → Option Json
  | object members => members.reverse.lookup key
  | _ => none

end Json

end StaticWiring
