import StaticWiring.Json.Basic

/-!
# Records in JSON

A record is written as an object with a member for each field, or as an array with the fields in
their order. Members with other keys are passed over, a field may not be given twice, an array may
stop early but has no more items than the record has fields, and a field that is not given takes its
default.

## Main definitions

* `Json.Fields`, `Json.fields?` — the given fields of a record.
* `Json.Fields.get`, `Json.Fields.require` — the value of an optional and of a mandatory field.
* `Json.asString?`, `Json.asBool?`, `Json.asNat?`, `Json.asList?`, `Json.asOptional?` — plain
  values.
-/

namespace StaticWiring.Json

/-! ### Plain values -/

/-- A string. No other value is converted to one. -/
def asString? : Json → Option String
  | string s => some s
  | _ => none

/-- A truth value. Texts such as `"true"` are none. -/
def asBool? : Json → Option Bool
  | bool b => some b
  | _ => none

/-- A natural number below `bound`, written as an integer. A number with a fraction or an exponent
is none, even if it denotes an integer. -/
def asNat? (bound : Nat) : Json → Option Nat
  | number n => if 0 ≤ n ∧ n < bound then some n.toNat else none
  | _ => none

/-- An array whose items are all of one form. A single item of another form spoils the array. -/
def asList? {α : Type} (decode : Json → Option α) : Json → Option (List α)
  | array items => items.mapM decode
  | _ => none

/-- A list of strings. It may be empty. -/
def asStrings? : Json → Option (List String) :=
  asList? asString?

/-- A value that may be `null`. An absent value is told from a value of the wrong form, which is no
value at all. -/
def asOptional? {α : Type} (decode : Json → Option α) : Json → Option (Option α)
  | null => some none
  | value => (decode value).map some

/-- A map from strings: of two members with one key the later counts. The members keep their order,
and it is for whoever looks one up to take the last. -/
def asMap? {α : Type} (decode : Json → Option α) : Json → Option (List (String × α))
  | object members => members.mapM fun (key, value) => (decode value).map (key, ·)
  | _ => none

/-! ### Records -/

/-- The given fields of a record, each at most once. It is what a reader of the record asks for the
values of its fields. -/
structure Fields where
  /-- The fields by name. -/
  given : List (String × Json)

/-- The given fields of a record with the fields `names`. Other members are passed over. In an array
the fields are given by their positions, and it may end early. -/
def fields? (names : List String) : Json → Option Fields
  | object members =>
    let given := members.filter fun member => names.contains member.1
    if (given.map Prod.fst).Nodup then some ⟨given⟩ else none
  | array items => if items.length ≤ names.length then some ⟨names.zip items⟩ else none
  | _ => none

namespace Fields

variable {α : Type}

/-- The value of a field, `default` where it is not given. A field that is given must have the right
form; its default does not make up for it. -/
def get (fields : Fields) (name : String) (decode : Json → Option α) (default : α) : Option α :=
  match fields.given.lookup name with
  | none => some default
  | some value => decode value

/-- The value of a field that must be given. Without it there is no record. -/
def require (fields : Fields) (name : String) (decode : Json → Option α) : Option α :=
  (fields.given.lookup name).bind decode

end Fields

end StaticWiring.Json
