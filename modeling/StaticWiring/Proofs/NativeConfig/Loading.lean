import StaticWiring.Proofs.NativeConfig.Facts

/-!
# Types that can be found by their names

The native image finds a type by its name at run time if the configuration has an entry for the type
with the access to load it. Requests only ever add to this: a type can be found after some requests
if it could before, or if one of them grants it, and no other request makes a difference.

## Main definitions

* `NativeConfig.Loads` — the configuration lets a type be found.
* `NativeConfig.Request.Loads` — a request asks for it.

## Main results

* `Access.contains_loadType_iff` — the access to load a type is its lowest bit.
* `NativeConfig.loads_addAll` — the types that can be found after some requests.
-/

namespace StaticWiring

theorem Access.contains_loadType_iff {a : Access} : a.contains loadType = true ↔ a.HasBit 0 := by
  rw [contains_iff, ← UInt32.toNat_inj, UInt32.toNat_and, show loadType.bits.toNat = 1 from rfl,
    Nat.and_one_is_mod, HasBit, Nat.testBit_zero, decide_eq_true_eq]

namespace NativeConfig

variable {config : NativeConfig} {type : String}

/-- The configuration lets the type be found by its name. Other accesses to the type do not matter.
-/
def Loads (config : NativeConfig) (type : String) : Prop :=
  ∃ access, config.reflection.lookup type = some access ∧
    access.access.contains .loadType = true

instance (config : NativeConfig) (type : String) : Decidable (config.Loads type) :=
  match h : config.reflection.lookup type with
  | none => .isFalse fun ⟨_, found, _⟩ => by
    rw [h] at found
    cases found
  | some access =>
    if loads : access.access.contains .loadType = true then .isTrue ⟨access, h, loads⟩
    else .isFalse fun ⟨_, found, loads'⟩ => by
      rw [h] at found
      cases found
      exact loads loads'

/-- The request asks that the type be found by its name. A method or a field of a type brings its
type along. -/
def Request.Loads (type : String) : Request → Prop
  | .reflection requested access => type = requested ∧ access.contains .loadType = true
  | .method requested _ => type = requested
  | .field requested _ => type = requested
  | _ => False

theorem loads_iff : config.Loads type ↔ config.Says (.reflection type (.granted 0)) := by
  simp only [Loads, Access.contains_loadType_iff]
  rfl

theorem Request.loads_iff {r : Request} :
    r.Loads type ↔ r.Says (.reflection type (.granted 0)) := by
  have loadType : Access.loadType.HasBit 0 := rfl
  cases r <;> simp [Request.Loads, Request.Says, TypeFact.IsAsked, Access.contains_loadType_iff,
    loadType]

theorem loads_addAll (requests : List Request) :
    (config.addAll requests).Loads type ↔
      config.Loads type ∨ ∃ r ∈ requests, r.Loads type := by
  simp only [loads_iff, Request.loads_iff]
  exact says_addAll

/-- A configuration that starts empty lets those types be found that it is asked for. No other entry
comes from the configuration itself. -/
theorem loads_addAll_empty (requests : List Request) :
    (addAll {} requests).Loads type ↔ ∃ r ∈ requests, r.Loads type := by
  have nothing : ¬ ({} : NativeConfig).Loads type := mt loads_iff.1 not_says_empty
  rw [loads_addAll, or_iff_right nothing]

end NativeConfig

end StaticWiring
