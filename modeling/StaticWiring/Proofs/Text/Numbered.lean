import Mathlib.Data.List.Basic
import StaticWiring.Text.Cut

/-!
# Numbered names

A name that ends in another character than a digit can be numbered by a numeral behind it: the name
and the number can be read off the numbered name again, and no numbered name is one without number.

## Main definitions

* `Text.IsBare` — a text ends in another character than a digit.

## Main results

* `Text.numbered_inj` — the name and the number of a numbered name.
* `Text.numbered_ne_of_isBare` — a numbered name is not bare.
-/

namespace StaticWiring.Text

/-- The text ends in another character than a digit. A number can be put behind it and found again.
-/
def IsBare (s : String) : Prop :=
  ∃ c, s.toList.getLast? = some c ∧ c.isDigit = false

instance (s : String) : Decidable (IsBare s) :=
  match h : s.toList.getLast? with
  | none => .isFalse fun ⟨_, found, _⟩ => by
    rw [h] at found
    cases found
  | some c =>
    if bare : c.isDigit = false then .isTrue ⟨c, h, bare⟩
    else .isFalse fun ⟨_, found, bare'⟩ => by
      rw [h] at found
      cases found
      exact bare bare'

/-- What stands at the end of a text decides whether it is bare. What stands before the end may be
anything. -/
theorem isBare_append {tail : String} (h : IsBare tail) (s : String) : IsBare (s ++ tail) := by
  obtain ⟨c, last, bare⟩ := h
  refine ⟨c, ?_, bare⟩
  rw [String.toList_append, List.getLast?_append, last]
  rfl

theorem isDigit_of_mem_numeral {n : Nat} {c : Char} (h : c ∈ (toString n).toList) :
    c.isDigit = true := by
  rw [Nat.toString_eq_repr, Nat.toList_repr] at h
  exact Nat.isDigit_of_mem_toDigits (by decide) (by decide) h

theorem numeral_ne_nil (n : Nat) : (toString n).toList ≠ [] := by
  rw [Nat.toString_eq_repr, Nat.toList_repr]
  exact Nat.toDigits_ne_nil

theorem numeral_inj {m n : Nat} (h : (toString m).toList = (toString n).toList) : m = n := by
  rw [Nat.toString_eq_repr, Nat.toString_eq_repr, Nat.toList_repr, Nat.toList_repr] at h
  rw [← Nat.ofDigitChars_ten_toDigits (n := m), h, Nat.ofDigitChars_ten_toDigits]

/-- No digit of a numeral belongs to the bare name before it. The name and the number can therefore
be told apart. -/
theorem eq_nil_of_append {a : String} {xs ys digits : List Char} (bare : IsBare a)
    (ha : a.toList = xs ++ ys) (all : ∀ c ∈ digits, c.isDigit = true) (hys : ys ⊆ digits) :
    ys = [] := by
  obtain ⟨c, last, notDigit⟩ := bare
  by_contra nonempty
  rw [ha, List.getLast?_append_of_ne_nil _ nonempty] at last
  have mem : c ∈ ys := List.mem_of_getLast? last
  rw [all c (hys mem)] at notDigit
  cases notDigit

theorem numbered_inj {a b : String} {m n : Nat} (ha : IsBare a) (hb : IsBare b)
    (h : a ++ toString m = b ++ toString n) : a = b ∧ m = n := by
  have lists : a.toList ++ (toString m).toList = b.toList ++ (toString n).toList := by
    rw [← String.toList_append, ← String.toList_append, h]
  rcases List.append_eq_append_iff.1 lists with ⟨more, hb', hm⟩ | ⟨more, ha', hn⟩
  · have none : more = [] := eq_nil_of_append hb hb' (fun c => isDigit_of_mem_numeral)
      (hm ▸ List.subset_append_left more _)
    subst none
    exact ⟨String.toList_injective (by simpa using hb'.symm), numeral_inj hm⟩
  · have none : more = [] := eq_nil_of_append ha ha' (fun c => isDigit_of_mem_numeral)
      (hn ▸ List.subset_append_left more _)
    subst none
    exact ⟨String.toList_injective (by simpa using ha'), (numeral_inj hn).symm⟩

theorem numbered_ne_of_isBare {a b : String} {n : Nat} (hb : IsBare b) : a ++ toString n ≠ b := by
  rintro rfl
  obtain ⟨c, last, notDigit⟩ := hb
  rw [String.toList_append, List.getLast?_append_of_ne_nil _ (numeral_ne_nil n)] at last
  rw [isDigit_of_mem_numeral (List.mem_of_getLast? last)] at notDigit
  cases notDigit

end StaticWiring.Text
