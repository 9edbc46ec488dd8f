import Mathlib.Algebra.Order.Ring.Int
import StaticWiring.Proofs.Java.Integer
import StaticWiring.Proofs.Java.Literal
import StaticWiring.Registration

/-!
# Literals in generated code

A text that is accepted for an integral type is an integer of the type, and what is written for it
in generated code is read to the same integer again, as one of 64 bits for the type `long` and as
one of 32 bits for the smaller types. A character that is accepted is written as a literal that is
read to its code unit, if it has only one: the literal of a character from U+10000 on is none.

## Main definitions

* `Literal.integralTypes` — the types of integers with their bits.
* `Literal.IsInteger`, `Literal.InRange` — what a text stands for, and the integers of so many bits.

## Main results

* `Literal.integer?_eq_some_iff` — the integer that a text denotes.
* `Literal.ofText?_integral` — the integers that are accepted, and what is written for them.
* `Literal.isCharLiteral_value_iff` — the characters that are written as literals.
-/

namespace StaticWiring

open Text (IsNumeral)
open Java.Source (IntegerType readInteger)

namespace Literal

variable {cs digits : List Char} {n : Int} {m bits : Nat} {type : String}

/-! ### Integers -/

/-- An optional sign and digits stand for an integer. A sign alone is none. -/
inductive IsInteger : List Char → Int → Prop
  /-- Digits without sign. -/
  | unsigned {digits : List Char} {n : Nat} (numeral : IsNumeral digits n) : IsInteger digits n
  /-- Digits behind a plus. -/
  | positive {digits : List Char} {n : Nat} (numeral : IsNumeral digits n) :
    IsInteger ('+' :: digits) n
  /-- Digits behind a minus. -/
  | negative {digits : List Char} {n : Nat} (numeral : IsNumeral digits n) :
    IsInteger ('-' :: digits) (-n)

/-- The integer has so many bits in two's complement. One of them is for the sign. -/
def InRange (bits : Nat) (n : Int) : Prop :=
  -2 ^ (bits - 1) ≤ n ∧ n ≤ 2 ^ (bits - 1) - 1

theorem fits_iff : fits bits n = true ↔ InRange bits n := by
  have bound : ((2 ^ (bits - 1) : Nat) : Int) = 2 ^ (bits - 1) := Int.natCast_pow 2 _
  simp only [fits, InRange, Nat.pow_eq, bound, Bool.and_eq_true, decide_eq_true_eq]
  omega

theorem InRange.mono {bits' : Nat} (h : InRange bits n) (le : bits ≤ bits') : InRange bits' n := by
  have bound : (2 : Int) ^ (bits - 1) ≤ 2 ^ (bits' - 1) :=
    pow_le_pow_right₀ (by decide) (Nat.sub_le_sub_right le 1)
  obtain ⟨lower, upper⟩ := h
  constructor <;> omega

/-- Digits have no sign. What is split off is always written. -/
theorem splitSign_of_isNumeral (numeral : IsNumeral digits m) :
    Decimal.splitSign digits = (false, digits) := by
  unfold Decimal.splitSign
  split
  · exact absurd (numeral.isDigit _ List.mem_cons_self) (by decide)
  · exact absurd (numeral.isDigit _ List.mem_cons_self) (by decide)
  · rfl

theorem isInteger_iff : IsInteger cs n ↔
    ∃ m, IsNumeral (Decimal.splitSign cs).2 m ∧
      n = if (Decimal.splitSign cs).1 then -(m : Int) else m := by
  constructor
  · rintro (⟨numeral⟩ | ⟨numeral⟩ | ⟨numeral⟩)
    · rw [splitSign_of_isNumeral numeral]
      exact ⟨_, numeral, rfl⟩
    · exact ⟨_, numeral, rfl⟩
    · exact ⟨_, numeral, rfl⟩
  · rintro ⟨m, numeral, rfl⟩
    unfold Decimal.splitSign at numeral ⊢
    split at numeral
    · exact .negative numeral
    · exact .positive numeral
    · exact .unsigned numeral

/-- A text denotes the integer that it stands for. Reading accepts nothing else, such as blanks or
separators. -/
theorem integer?_eq_some_iff : integer? cs = some n ↔ IsInteger cs n := by
  rw [isInteger_iff]
  simp only [integer?, Option.ite_none_left_eq_some, Bool.or_eq_true, List.isEmpty_iff,
    Bool.not_eq_true', not_or, Bool.not_eq_false, List.all_eq_true, Text.isNumeral_iff,
    Option.some.injEq]
  constructor
  · rintro ⟨⟨nonempty, digits⟩, rfl⟩
    exact ⟨_, ⟨nonempty, digits, rfl⟩, rfl⟩
  · rintro ⟨_, ⟨nonempty, digits, rfl⟩, rfl⟩
    exact ⟨⟨nonempty, digits⟩, rfl⟩

theorem bounded?_eq_some_iff {text : String} :
    bounded? bits text = some n ↔ IsInteger text.toList n ∧ InRange bits n := by
  rw [bounded?, Option.filter_eq_some_iff, integer?_eq_some_iff, fits_iff]

/-! ### Integral types -/

/-- The types of integers with their bits. Boxed types have the same range. -/
def integralTypes : List (String × Nat) :=
  [("byte", 8), ("java.lang.Byte", 8), ("short", 16), ("java.lang.Short", 16),
    ("int", 32), ("java.lang.Integer", 32), ("long", 64), ("java.lang.Long", 64)]

/-- The type of the literals of integers of so many bits. Shorter types are written as those of 32
bits. -/
def integerType (bits : Nat) : IntegerType :=
  if bits ≤ 32 then .int else .long

/-- The literal of an integer of a type. The type decides which suffix is written. -/
def ofInteger : IntegerType → Int → Literal
  | .int => .int
  | .long => .long

theorem family?_of_mem_integralTypes :
    ∀ entry ∈ integralTypes,
      family? entry.1 = some (if entry.2 ≤ 32 then .ints entry.2 else .longs) ∧
        (entry.2 ≤ 32 ∨ entry.2 = 64) := by
  decide

/-- The integers of an integral type can be written. None of them is cut off by the literal. -/
theorem le_bits_of_mem_integralTypes :
    ∀ entry ∈ integralTypes, entry.2 ≤ (integerType entry.2).bits := by
  decide

/-- The integers of an integral type are accepted for it. The types are gone through one by one
here, and nowhere else. -/
theorem ofText?_of_mem_integralTypes (listed : (type, bits) ∈ integralTypes) (cp : ClassPath)
    (text : String) :
    ofText? cp type text = (bounded? bits (Text.trim text)).map (ofInteger (integerType bits)) := by
  obtain ⟨family, sizes⟩ := family?_of_mem_integralTypes _ listed
  rw [ofText?, family]
  rcases sizes with small | rfl
  · simp only [ofFamily?, if_pos small, integerType, ofInteger]
  · rfl

/-- The written form of an integer in generated code. The scope is of no account, as no type is
mentioned. -/
theorem write_value_ofInteger (site : Site) (scope : Java.Scope) (t : IntegerType) (n : Int) :
    ((site.value (.literal (ofInteger t n))).write scope).toList =
      (toString n).toList ++ t.suffix := by
  cases t with
  | int => exact (List.append_nil _).symm
  | long => exact String.toList_append

/-- A text is accepted for an integral type if and only if it is an integer of the type between
white space, and what is written for it is a literal, with a minus or not, of the same integer. -/
theorem ofText?_integral (listed : (type, bits) ∈ integralTypes) (cp : ClassPath)
    (text : String) :
    ((ofText? cp type text).isSome = true ↔
      ∃ n, IsInteger (Text.trim text).toList n ∧ InRange bits n) ∧
    ∀ l n, ofText? cp type text = some l → IsInteger (Text.trim text).toList n →
      ∀ (site : Site) (scope : Java.Scope),
        readInteger ((site.value (.literal l)).write scope).toList =
          some (integerType bits, n) := by
  rw [ofText?_of_mem_integralTypes listed]
  constructor
  · rw [Option.isSome_map, Option.isSome_iff_exists]
    exact exists_congr fun n => bounded?_eq_some_iff
  · intro l n accepted integer site scope
    obtain ⟨k, found, rfl⟩ := Option.map_eq_some_iff.1 accepted
    obtain ⟨integer', range⟩ := bounded?_eq_some_iff.1 found
    obtain rfl : k = n := Option.some.inj
      ((integer?_eq_some_iff.2 integer').symm.trans (integer?_eq_some_iff.2 integer))
    obtain ⟨lower, upper⟩ := range.mono (le_bits_of_mem_integralTypes _ listed)
    rw [write_value_ofInteger]
    exact Java.Source.readInteger_toString lower upper

/-- The least integer of 64 bits, with a zero in front of its digits, is accepted between white
space and written without the zero. -/
theorem ofText?_integral_leastLong :
    let text := " -09223372036854775808\n"
    ("long", 64) ∈ integralTypes ∧
    ofText? {} "long" text = some (.long (-9223372036854775808)) ∧
    IsInteger (Text.trim text).toList (-9223372036854775808) ∧
    ∀ (site : Site) (scope : Java.Scope),
      readInteger ((site.value (.literal (.long (-9223372036854775808)))).write scope).toList =
        some (.long, -9223372036854775808) := by
  intro text
  have listed : ("long", 64) ∈ integralTypes := by decide
  have integer : IsInteger (Text.trim text).toList (-9223372036854775808) := by
    rw [← integer?_eq_some_iff]
    decide
  have accepted : ofText? {} "long" text = some (.long (-9223372036854775808)) := by decide
  exact ⟨listed, accepted, integer, (ofText?_integral listed {} text).2 _ _ accepted integer⟩

/-! ### Characters -/

/-- A character that is accepted is written as the literal of its code unit if it lies below
U+10000, and as no literal otherwise. -/
theorem isCharLiteral_value_iff {cp : ClassPath} {text : String} {l : Literal}
    (character : type = "char" ∨ type = "java.lang.Character")
    (accepted : ofText? cp type text = some l) :
    ∃ c, text.toList = [c] ∧ ∀ (site : Site) (scope : Java.Scope) (u : UInt16),
      Java.IsCharLiteral ((site.value (.literal l)).write scope).toList u ↔
        c.toNat < 0x10000 ∧ u = Java.Source.unit c := by
  have family : family? type = some .chars := by
    rcases character with rfl | rfl <;> rfl
  simp only [ofText?, family, ofFamily?] at accepted
  obtain ⟨c, only, rfl⟩ := Option.map_eq_some_iff.1 accepted
  have single : text.toList = [c] := by
    unfold onlyChar? at only
    split at only
    · next single =>
      rw [single, Option.some.inj only]
    · cases only
  refine ⟨c, single, fun site scope u => ?_⟩
  rw [← Java.Source.units_eq_singleton_iff, ← Java.isCharLiteral_charLiteral_iff]
  rfl

/-- A control character is written as the literal of its code unit. It needs no escape, and is
written as it is. -/
theorem isCharLiteral_value_iff_nextLine :
    ("char" = "char" ∨ "char" = "java.lang.Character") ∧
    ofText? {} "char" "\x85" = some (.char '\x85') ∧
    ∀ (site : Site) (scope : Java.Scope),
      Java.IsCharLiteral ((site.value (.literal (.char '\x85'))).write scope).toList 0x85 := by
  have accepted : ofText? {} "char" "\x85" = some (.char '\x85') := by decide
  obtain ⟨c, single, written⟩ := isCharLiteral_value_iff (.inl rfl) accepted
  obtain rfl : '\x85' = c := (List.cons.inj single).1
  exact ⟨.inl rfl, accepted, fun site scope => (written site scope 0x85).2 (by decide)⟩

end Literal

/-- A character beyond U+FFFF is accepted, and what is written for it is no literal. The literal
would have to hold two code units. -/
theorem Sample.not_isCharLiteral_face :
    Literal.ofText? {} "char" "😀" = some (.char '😀') ∧
    ∀ (site : Site) (scope : Java.Scope) (u : UInt16),
      ¬ Java.IsCharLiteral ((site.value (.literal (.char '😀'))).write scope).toList u := by
  refine ⟨by decide, fun site scope u written => ?_⟩
  have single : Java.Source.units '😀' = [u] := Java.isCharLiteral_charLiteral_iff.1 written
  exact absurd (Java.Source.units_eq_singleton_iff.1 single).1 (by decide)

end StaticWiring
