import StaticWiring.Failure
import StaticWiring.NativeConfig.Basic

/-!
# Attempts

Wiring makes requests for the native image on its way. They stand even if it fails later on.

## Main definitions

* `Attempt` — a result or a failure, with the requests made before.
* `Attempt.request`, `Attempt.ofExcept` — a request, and a result without requests.
-/

namespace StaticWiring

/-- A result or a failure, with the requests made before. Requests that were made before a failure
stay made. -/
structure Attempt (α : Type) where
  /-- The requests in order. -/
  requests : List NativeConfig.Request
  /-- The result or the failure. -/
  outcome : Except GenerationError α

namespace Attempt

variable {α β : Type}

/-- A result or a failure without requests. Most steps of a wiring are of this kind. -/
def ofExcept (outcome : Except GenerationError α) : Attempt α :=
  ⟨[], outcome⟩

/-- Requests. They never fail. -/
def request (requests : List NativeConfig.Request) : Attempt Unit :=
  ⟨requests, .ok ()⟩

/-- An attempt followed by another one, unless it fails. The requests of the second one come behind
those of the first. -/
def andThen (a : Attempt α) (next : α → Attempt β) : Attempt β :=
  match a.outcome with
  | .error e => ⟨a.requests, .error e⟩
  | .ok x => ⟨a.requests ++ (next x).requests, (next x).outcome⟩

instance : Monad Attempt where
  pure x := ofExcept (.ok x)
  bind := andThen

@[simp]
theorem requests_pure (x : α) : (pure x : Attempt α).requests = [] :=
  rfl

@[simp]
theorem outcome_pure (x : α) : (pure x : Attempt α).outcome = .ok x :=
  rfl

theorem bind_of_ok {a : Attempt α} {x : α} (h : a.outcome = .ok x) (next : α → Attempt β) :
    a >>= next = ⟨a.requests ++ (next x).requests, (next x).outcome⟩ := by
  show andThen a next = _
  simp [andThen, h]

theorem bind_of_error {a : Attempt α} {e : GenerationError} (h : a.outcome = .error e)
    (next : α → Attempt β) : a >>= next = ⟨a.requests, .error e⟩ := by
  show andThen a next = _
  simp [andThen, h]

theorem outcome_bind_eq_ok {a : Attempt α} {next : α → Attempt β} {y : β} :
    (a >>= next).outcome = .ok y ↔ ∃ x, a.outcome = .ok x ∧ (next x).outcome = .ok y := by
  cases h : a.outcome with
  | error e => simp [bind_of_error h]
  | ok x => simp [bind_of_ok h]

theorem requests_bind_of_ok {a : Attempt α} {x : α} (h : a.outcome = .ok x)
    (next : α → Attempt β) : (a >>= next).requests = a.requests ++ (next x).requests := by
  rw [bind_of_ok h]

@[simp]
theorem requests_ofExcept (outcome : Except GenerationError α) :
    (ofExcept outcome).requests = [] :=
  rfl

@[simp]
theorem outcome_ofExcept (outcome : Except GenerationError α) :
    (ofExcept outcome).outcome = outcome :=
  rfl

@[simp]
theorem requests_request (requests : List NativeConfig.Request) :
    (request requests).requests = requests :=
  rfl

@[simp]
theorem outcome_request (requests : List NativeConfig.Request) :
    (request requests).outcome = .ok () :=
  rfl

end Attempt

end StaticWiring
