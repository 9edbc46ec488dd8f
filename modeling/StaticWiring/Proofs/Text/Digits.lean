import Mathlib.Data.List.Induction

/-!
# Digits

Decimal digits stand for a natural number, and one more digit behind them for ten times the number
and the digit. The written form of an integer has a minus in front of the digits of a negative one,
and a zero in front of others nowhere.

## Main definitions

* `Text.IsNumeral` — digits stand for a number.

## Main results

* `Text.isNumeral_iff` — the value of digits.
* `Text.head_toDigits` — only a zero is written with a zero at its front.
* `Text.toList_toString` — the written form of an integer.
-/

namespace StaticWiring.Text

variable {c : Char} {cs : List Char} {d n : Nat}

/-! ### The value of digits -/

/-- One or more decimal digits stand for a number. Leading zeros are allowed. -/
inductive IsNumeral : List Char → Nat → Prop
  /-- A digit by itself. -/
  | digit {d : Nat} (small : d < 10) : IsNumeral [d.digitChar] d
  /-- One more digit behind others. -/
  | concat {cs : List Char} {n d : Nat} (digits : IsNumeral cs n) (small : d < 10) :
    IsNumeral (cs ++ [d.digitChar]) (10 * n + d)

theorem toNat_digitChar (small : d < 10) : d.digitChar.toNat - '0'.toNat = d := by
  revert d
  decide

theorem isDigit_digitChar (small : d < 10) : d.digitChar.isDigit = true := by
  rw [Nat.isDigit_digitChar, decide_eq_true small]

theorem exists_digit (h : c.isDigit = true) : ∃ d < 10, c = d.digitChar := by
  have digits : ∀ k < 10, Char.ofNat ('0'.toNat + k) = k.digitChar := by
    decide
  obtain ⟨low, high⟩ := (Bool.and_eq_true_iff.1 h).imp of_decide_eq_true of_decide_eq_true
  have low : '0'.toNat ≤ c.toNat := low
  have high : c.toNat ≤ '9'.toNat := high
  have nine : '9'.toNat = '0'.toNat + 9 := rfl
  refine ⟨c.toNat - '0'.toNat, by omega, ?_⟩
  rw [← digits _ (by omega), Nat.add_sub_cancel' low, Char.ofNat_toNat]

theorem ofDigitChars_concat (cs : List Char) (small : d < 10) :
    Nat.ofDigitChars 10 (cs ++ [d.digitChar]) 0 = 10 * Nat.ofDigitChars 10 cs 0 + d := by
  rw [Nat.ofDigitChars_append, Nat.ofDigitChars_cons, toNat_digitChar small]
  rfl

theorem IsNumeral.ne_nil (h : IsNumeral cs n) : cs ≠ [] := by
  cases h with
  | digit => exact List.cons_ne_nil _ _
  | concat => exact List.append_ne_nil_of_right_ne_nil _ (List.cons_ne_nil _ _)

theorem IsNumeral.isDigit (h : IsNumeral cs n) : ∀ c ∈ cs, c.isDigit = true := by
  induction h with
  | digit small => simpa using isDigit_digitChar small
  | concat _ small ih =>
    intro c member
    rcases List.mem_append.1 member with member | member
    · exact ih c member
    · rw [List.mem_singleton.1 member]
      exact isDigit_digitChar small

theorem IsNumeral.ofDigitChars_eq (h : IsNumeral cs n) : Nat.ofDigitChars 10 cs 0 = n := by
  induction h with
  | digit small => exact (ofDigitChars_concat [] small).trans (Nat.zero_add _)
  | concat _ small ih => rw [ofDigitChars_concat _ small, ih]

theorem isNumeral_ofDigitChars (nonempty : cs ≠ []) (digits : ∀ c ∈ cs, c.isDigit = true) :
    IsNumeral cs (Nat.ofDigitChars 10 cs 0) := by
  induction cs using List.reverseRecOn with
  | nil => exact (nonempty rfl).elim
  | append_singleton cs c ih =>
    rw [List.forall_mem_append, List.forall_mem_singleton] at digits
    obtain ⟨digits, last⟩ := digits
    obtain ⟨d, small, rfl⟩ := exists_digit last
    rw [ofDigitChars_concat cs small]
    by_cases empty : cs = []
    · subst empty
      exact (Nat.zero_add d).symm ▸ .digit small
    · exact (ih empty digits).concat small

/-- Digits have one value. It is the value that reading the digits computes. -/
theorem isNumeral_iff : IsNumeral cs n ↔
    cs ≠ [] ∧ (∀ c ∈ cs, c.isDigit = true) ∧ Nat.ofDigitChars 10 cs 0 = n := by
  constructor
  · intro h
    exact ⟨h.ne_nil, h.isDigit, h.ofDigitChars_eq⟩
  · rintro ⟨nonempty, digits, rfl⟩
    exact isNumeral_ofDigitChars nonempty digits

/-! ### Written numbers -/

/-- Only a zero is written with a leading zero. It has no other digit in front then. -/
theorem head_toDigits (positive : 0 < n) :
    ∃ c cs, Nat.toDigits 10 n = c :: cs ∧ c ≠ '0' := by
  have nonzero : ∀ d < 10, 0 < d → Nat.digitChar d ≠ '0' := by
    decide
  induction n using Nat.strongRecOn with
  | _ n ih =>
    by_cases small : n < 10
    · exact ⟨n.digitChar, [], Nat.toDigits_of_lt_base small, nonzero n small positive⟩
    · obtain ⟨c, cs, digits, differs⟩ := ih (n / 10) (by omega) (by omega)
      refine ⟨c, cs ++ [(n % 10).digitChar], ?_, differs⟩
      rw [Nat.toDigits_of_base_le (by decide) (by omega), digits, List.cons_append]

theorem isDigit_of_mem_digits (h : c ∈ Nat.toDigits 10 n) : c.isDigit = true :=
  Nat.isDigit_of_mem_toDigits (by decide) (by decide) h

/-- The digits of a number have no sign. A minus is therefore always one of an integer. -/
theorem head_toDigits_ne_minus (n : Nat) (cs : List Char) : Nat.toDigits 10 n ≠ '-' :: cs := by
  intro signed
  have digit : '-'.isDigit = true := isDigit_of_mem_digits (signed ▸ List.mem_cons_self)
  cases digit

theorem toList_toString (n : Int) :
    (toString n).toList =
      if 0 ≤ n then Nat.toDigits 10 n.toNat else '-' :: Nat.toDigits 10 (-n).toNat := by
  rw [Int.toString_eq_repr, Int.repr_eq_if]
  split
  · exact Nat.toList_repr
  · rw [String.toList_append, Nat.toList_repr]
    rfl

end StaticWiring.Text
