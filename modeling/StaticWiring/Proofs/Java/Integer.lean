import Mathlib.Algebra.Order.Ring.Int
import StaticWiring.Proofs.Text.Digits

/-!
# How Java reads integers

A decimal integer literal has digits, and a suffix if it is a long one. A zero in front of further
digits would make it octal. The digits stand for at most the greatest integer of the type, or for
one more directly behind a minus, so that each integer of the type can be written. None of these
characters begins a Unicode escape, so that they are read as they stand.

## Main definitions

* `Java.Source.IntegerType` — the types of integer literals.
* `Java.Source.readInteger` — the type and the value of a literal with or without a minus in front.

## Main results

* `Java.Source.readInteger_toString` — each integer of a type is read as it is written.
-/

namespace StaticWiring.Java.Source

open Text (head_toDigits head_toDigits_ne_minus isDigit_of_mem_digits toList_toString)

/-! ### Literals -/

/-- The types of integer literals. Smaller types have no literals of their own. -/
inductive IntegerType where
  /-- Integers of 32 bits. -/
  | int
  /-- Integers of 64 bits. -/
  | long
deriving DecidableEq

namespace IntegerType

/-- The bits of an integer, one of them for the sign. The two's complement form has one more
negative value than positive ones. -/
def bits : IntegerType → Nat
  | int => 32
  | long => 64

/-- What is written behind the digits of an integer. Without a suffix, a literal has the smaller
type. -/
def suffix : IntegerType → List Char
  | int => []
  | long => ['L']

end IntegerType

/-- The type of a literal, and the digits in front of its suffix. A small letter is allowed as well,
though it is not written. -/
def splitSuffix (cs : List Char) : IntegerType × List Char :=
  if cs.getLast? = some 'L' ∨ cs.getLast? = some 'l' then (.long, cs.dropLast) else (.int, cs)

/-- The number that the digits of a decimal literal stand for. A leading zero would make the literal
octal. -/
def decimal? (digits : List Char) : Option Nat :=
  if digits = [] ∨ digits.any (!·.isDigit) ∨ digits.head? = some '0' ∧ 1 < digits.length then none
  else some (Nat.ofDigitChars 10 digits 0)

/-- The type and the value of a decimal literal whose value is not above the bound for its type. The
bound differs for a literal behind a minus. -/
def readMagnitude (bound : IntegerType → Nat) (cs : List Char) : Option (IntegerType × Nat) :=
  let (type, digits) := splitSuffix cs
  match decimal? digits with
  | some n => if n ≤ bound type then some (type, n) else none
  | none => none

/-- The type and the value of an integer: a decimal literal, or a minus with one. The minus is no
part of the literal, but allows its value to be greater by one. -/
def readInteger : List Char → Option (IntegerType × Int)
  | '-' :: cs =>
    (readMagnitude (fun type => 2 ^ (type.bits - 1)) cs).map fun (type, n) => (type, -n)
  | cs => (readMagnitude (fun type => 2 ^ (type.bits - 1) - 1) cs).map fun (type, n) => (type, n)

-- Two numbers are out of range, a zero makes digits octal, and the suffix counts.
example : ["-2147483648", "2147483648", "-2147483649", "010", "-7L"].map (readInteger ·.toList) =
    [some (.int, -2147483648), none, none, none, some (.long, -7)] := by
  decide

/-! ### What is written -/

variable {type : IntegerType} {n : Nat} {cs : List Char}

theorem splitSuffix_append (digits : ∀ c ∈ cs, c.isDigit = true) (type : IntegerType) :
    splitSuffix (cs ++ type.suffix) = (type, cs) := by
  cases type with
  | int =>
    have last (c : Char) (letter : c.isDigit = false) : cs.getLast? ≠ some c := by
      intro found
      rw [digits c (List.mem_of_getLast? found)] at letter
      cases letter
    rw [IntegerType.suffix, List.append_nil, splitSuffix,
      if_neg (not_or_intro (last 'L' rfl) (last 'l' rfl))]
  | long =>
    rw [IntegerType.suffix, splitSuffix, List.getLast?_concat, if_pos (.inl rfl),
      List.dropLast_concat]

/-- The digits of a number are decimal. The number zero is its single digit. -/
theorem decimal?_toDigits (n : Nat) : decimal? (Nat.toDigits 10 n) = some n := by
  have digits : (Nat.toDigits 10 n).any (!·.isDigit) = false := by
    simpa using fun c (member : c ∈ Nat.toDigits 10 n) => isDigit_of_mem_digits member
  have leading : ¬ ((Nat.toDigits 10 n).head? = some '0' ∧ 1 < (Nat.toDigits 10 n).length) := by
    rintro ⟨zero, more⟩
    obtain rfl | positive := Nat.eq_zero_or_pos n
    · exact absurd more (by decide)
    · obtain ⟨c, cs, written, differs⟩ := head_toDigits positive
      rw [written] at zero
      exact differs (Option.some.inj zero)
  rw [decimal?, if_neg (by simpa [Nat.toDigits_ne_nil, digits] using leading),
    Nat.ofDigitChars_ten_toDigits]

theorem readMagnitude_toDigits {bound : IntegerType → Nat} (small : n ≤ bound type) :
    readMagnitude bound (Nat.toDigits 10 n ++ type.suffix) = some (type, n) := by
  have digits := fun c (member : c ∈ Nat.toDigits 10 n) => isDigit_of_mem_digits member
  simp only [readMagnitude, splitSuffix_append digits, decimal?_toDigits, if_pos small]

/-- No number begins with a minus. It is therefore read without the case of a minus. -/
theorem readInteger_toDigits (n : Nat) (rest : List Char) :
    readInteger (Nat.toDigits 10 n ++ rest) =
      (readMagnitude (fun type => 2 ^ (type.bits - 1) - 1) (Nat.toDigits 10 n ++ rest)).map
        fun (type, n) => (type, n) := by
  obtain ⟨c, cs, written⟩ := List.exists_cons_of_ne_nil (Nat.toDigits_ne_nil (n := n) (b := 10))
  rw [written, List.cons_append, readInteger]
  intro others signed
  obtain ⟨rfl, -⟩ := List.cons.inj signed
  exact head_toDigits_ne_minus n cs written

/-- Each integer of a type is read as it is written. The suffix tells the type, and the bounds are
those of its bits. -/
theorem readInteger_toString {n : Int} (lower : -2 ^ (type.bits - 1) ≤ n)
    (upper : n ≤ 2 ^ (type.bits - 1) - 1) :
    readInteger ((toString n).toList ++ type.suffix) = some (type, n) := by
  have bound : ((2 ^ (type.bits - 1) : Nat) : Int) = 2 ^ (type.bits - 1) := Int.natCast_pow 2 _
  rw [toList_toString]
  split
  · next nonneg =>
    have small : n.toNat ≤ 2 ^ (type.bits - 1) - 1 := by omega
    rw [readInteger_toDigits, readMagnitude_toDigits small]
    exact congrArg (fun n => some (type, n)) (Int.toNat_of_nonneg nonneg)
  · next negative =>
    have small : (-n).toNat ≤ 2 ^ (type.bits - 1) := by omega
    rw [List.cons_append, readInteger, readMagnitude_toDigits small]
    refine congrArg (fun n => some (type, n)) ?_
    omega

end StaticWiring.Java.Source
