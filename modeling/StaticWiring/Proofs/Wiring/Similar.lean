import Mathlib.Data.List.Forall2
import StaticWiring.Wiring.Attempt
import StaticWiring.Wiring.Basic

/-!
# Results that differ in the order of names

Where all definitions of a type are injected together, and where a failure lists the definitions
that an injection point could not decide between, the names are in the order of the catalog. Two
results are similar if they differ in the order of such names only.

## Main definitions

* `Value.Similar`, `Instantiation.Similar`, `Injection.Similar`, `Wiring.Similar` — wirings and
  their parts.
* `DependencyFault.Similar`, `GenerationError.Similar` — failures.
* `Alike` — two results of one kind, related by what they hold.
* `Attempt.Similar` — two attempts with the same requests.

## Main results

* `Attempt.Similar.bind` — similar attempts one after the other.
-/

namespace StaticWiring

/-! ### Wirings -/

/-- The values differ at most in the order of definitions that are injected together. That order is
the one of the catalog. -/
inductive Value.Similar : Value → Value → Prop
  /-- The same value. -/
  | refl (v : Value) : Similar v v
  /-- The same definitions. -/
  | beans (kind : CollectionKind) (element : TypeRef) {names names' : List String}
      (perm : names.Perm names') : Similar (.beans kind element names) (.beans kind element names')

/-- The same member is called with similar arguments. The order of the parameters is the same. -/
inductive Instantiation.Similar : Instantiation → Instantiation → Prop
  /-- The same constructor. -/
  | construction (parameterTypes : List TypeRef) {arguments arguments' : List Value}
      (reflective : Bool) (similar : List.Forall₂ Value.Similar arguments arguments') :
    Similar (.construction parameterTypes arguments reflective)
      (.construction parameterTypes arguments' reflective)
  /-- The same overload of the same factory method. -/
  | factoryMethod (declaringType : String) (factoryBean : Option String) (method : String)
      (parameterTypes : List TypeRef) {arguments arguments' : List Value} (reflective : Bool)
      (similar : List.Forall₂ Value.Similar arguments arguments') :
    Similar (.factoryMethod declaringType factoryBean method parameterTypes arguments reflective)
      (.factoryMethod declaringType factoryBean method parameterTypes arguments' reflective)
  /-- The same expression. -/
  | supplier (expression : String) : Similar (.supplier expression) (.supplier expression)

/-- The same member is injected with similar values. It works by reflection in both or in none. -/
inductive Injection.Similar : Injection → Injection → Prop
  /-- The same field. -/
  | field (declaringType name : String) (type : TypeRef) {value value' : Value} (reflective : Bool)
      (similar : value.Similar value') :
    Similar (.field declaringType name type value reflective)
      (.field declaringType name type value' reflective)
  /-- The same setter. -/
  | method (declaringType name : String) (parameterTypes : List TypeRef)
      {arguments arguments' : List Value} (reflective : Bool)
      (similar : List.Forall₂ Value.Similar arguments arguments') :
    Similar (.method declaringType name parameterTypes arguments reflective)
      (.method declaringType name parameterTypes arguments' reflective)

/-- The same definition is built in the same way with similar values. The code for the two differs
at most in the order of such definitions. -/
structure Wiring.Similar (w w' : Wiring) : Prop where
  /-- It is the same definition. -/
  definition_eq : w.definition = w'.definition
  /-- The generated code can name its type in both or in none. -/
  typeAccessible_eq : w.typeAccessible = w'.typeAccessible
  /-- The instances are obtained in the same way. -/
  instantiation : w.instantiation.Similar w'.instantiation
  /-- They are completed in the same way. -/
  injections : List.Forall₂ Injection.Similar w.injections w'.injections

/-- The requests do not depend on the arguments. Similar wirings therefore ask for the same. -/
theorem Instantiation.Similar.requests_eq {i i' : Instantiation} (h : i.Similar i')
    (type : String) : i.requests type = i'.requests type := by
  cases h <;> rfl

theorem Injection.Similar.requests_eq {i i' : Injection} (h : i.Similar i') :
    i.requests = i'.requests := by
  cases h <;> rfl

/-! ### Failures -/

/-- The faults differ at most in the order of the definitions that remain. These are the only ones
that list definitions of the catalog. -/
inductive DependencyFault.Similar : DependencyFault → DependencyFault → Prop
  /-- The same fault. -/
  | refl (fault : DependencyFault) : Similar fault fault
  /-- The same definitions remain. -/
  | multipleCandidates {names names' : List String} (perm : names.Perm names') :
    Similar (.multipleCandidates names) (.multipleCandidates names')

/-- The failures differ at most in the order of the definitions that remain for an injection
point. -/
inductive GenerationError.Similar : GenerationError → GenerationError → Prop
  /-- The same failure. -/
  | refl (e : GenerationError) : Similar e e
  /-- The same injection point has no value, for similar faults. -/
  | unsatisfied (definition member requiredType : String) {fault fault' : DependencyFault}
      (similar : fault.Similar fault') :
    Similar (.unsatisfied definition member requiredType fault)
      (.unsatisfied definition member requiredType fault')

theorem GenerationError.Similar.of_eq {e e' : GenerationError} (h : e = e') : e.Similar e' :=
  h ▸ .refl e

/-! ### Results -/

/-- Both results are failures, related by `E`, or none of them is, and they are related by `R`.
Whether there is a result may thus not depend on what is changed. -/
inductive Alike {ε α : Type} (E : ε → ε → Prop) (R : α → α → Prop) :
    Except ε α → Except ε α → Prop
  /-- Both fail. -/
  | error {e e' : ε} (related : E e e') : Alike E R (.error e) (.error e')
  /-- Both succeed. -/
  | ok {x x' : α} (related : R x x') : Alike E R (.ok x) (.ok x')

namespace Attempt

variable {α β : Type} {R : α → α → Prop} {S : β → β → Prop} {x y : Attempt α}

/-- Both attempts make the same requests, and both fail for similar causes, or both succeed with
results that are related by `R`. -/
structure Similar (R : α → α → Prop) (x y : Attempt α) : Prop where
  /-- The requests are the same. -/
  requests_eq : x.requests = y.requests
  /-- The outcomes are alike. -/
  outcome : Alike GenerationError.Similar R x.outcome y.outcome

theorem similar_pure {u v : α} (related : R u v) : Similar R (pure u) (pure v) :=
  ⟨rfl, .ok related⟩

theorem similar_ofExcept {u v : Except GenerationError α}
    (alike : Alike GenerationError.Similar R u v) : Similar R (ofExcept u) (ofExcept v) :=
  ⟨rfl, alike⟩

theorem similar_request {rs rs' : List NativeConfig.Request} (same : rs = rs') :
    Similar (fun _ _ => True) (request rs) (request rs') :=
  ⟨same, .ok trivial⟩

theorem Similar.bind (h : Similar R x y) {next next' : α → Attempt β}
    (both : ∀ u v, R u v → Similar S (next u) (next' v)) :
    Similar S (x >>= next) (y >>= next') := by
  obtain ⟨requests, first⟩ := x
  obtain ⟨requests', first'⟩ := y
  obtain ⟨same, alike⟩ := h
  obtain rfl : requests = requests' := same
  cases alike with
  | error related => exact ⟨rfl, .error related⟩
  | ok related =>
    obtain ⟨more, outcome⟩ := both _ _ related
    exact ⟨congrArg (requests ++ ·) more, outcome⟩

end Attempt

end StaticWiring
