import StaticWiring.Json.Printer
import StaticWiring.Json.Token
import StaticWiring.Proofs.Lists
import StaticWiring.Proofs.Text.Digits

/-!
# Scanning what is written

The written form of a string is scanned to the string, whatever its characters are and whatever
follows it, and the written form of an integer to the integer, unless the characters behind it go on
as a number does.

## Main definitions

* `Json.Token.Unit16.Denotes` — a unit stands for a character, whatever units follow.
* `Json.Token.EndsNumeral` — a text does not go on as a number does.

## Main results

* `Json.Token.scan_quoted` — a string.
* `Json.Token.scan_numeral` — a number as it is written.
* `Json.Token.isNumeral_toString`, `Json.Token.numeralValue_toString` — the numeral of an integer.
-/

namespace StaticWiring.Json.Token

variable {c : Char} {cs rest : List Char}

/-! ### Strings -/

/-- The unit stands for the character, whatever units follow. It is therefore no half of a surrogate
pair that could be joined. -/
def Unit16.Denotes (unit : Unit16) (c : Char) : Prop :=
  ∀ units, joinUnits (unit :: units) = (joinUnits units).map (c :: ·)

theorem Unit16.denotes_char (c : Char) : (char c).Denotes c :=
  fun _ => rfl

/-- A control character is no half of a surrogate pair. It is written as an escape and is read as
itself. -/
theorem Unit16.denotes_code (control : c.toNat < 0x20) : (code c.toNat).Denotes c := by
  have trailing : isTrailing c.toNat = false := by
    rw [isTrailing, Bool.and_eq_false_iff, decide_eq_false_iff_not]
    omega
  have leading : isLeading c.toNat = false := by
    rw [isLeading, Bool.and_eq_false_iff, decide_eq_false_iff_not]
    omega
  intro units
  rw [joinUnits.eq_def]
  simp only [trailing, leading, Bool.false_eq_true, if_false, Char.ofNat_toNat]

theorem hexUnit?_control {n : Nat} (h : n < 0x20) :
    hexUnit? '0' '0' (hexDigit (n / 16)) (hexDigit (n % 16)) = some n := by
  revert n
  decide

theorem scanUnits_short {e : Char} (found : shortEscape? e = some c) (rest : List Char) :
    scanUnits ('\\' :: e :: rest) =
      (scanUnits rest).map fun (units, after) => (.char c :: units, after) := by
  rw [scanUnits, found]
  · cases scanUnits rest <;> rfl
  · -- No code unit begins like this.
    rintro _ _ _ _ _ rfl
    cases found

theorem scanUnits_visible (quote : c ≠ '"') (backslash : c ≠ '\\') (visible : ¬ c.toNat < 0x20)
    (rest : List Char) :
    scanUnits (c :: rest) =
      (scanUnits rest).map fun (units, after) => (.char c :: units, after) := by
  rw [scanUnits.eq_def]
  split
  all_goals grind

/-- The written form of a character is one unit that stands for it. It may be an escape or the
character itself. -/
theorem exists_scanUnits_escape (c : Char) :
    ∃ unit : Unit16, unit.Denotes c ∧ ∀ rest, scanUnits (escape c ++ rest) =
      (scanUnits rest).map fun (units, after) => (unit :: units, after) := by
  have short {e : Char} (found : shortEscape? e = some c) :
      ∃ unit : Unit16, unit.Denotes c ∧ ∀ rest, scanUnits (['\\', e] ++ rest) =
        (scanUnits rest).map fun (units, after) => (unit :: units, after) :=
    ⟨.char c, Unit16.denotes_char c, scanUnits_short found⟩
  -- The tests come in the order of the code, so the last case knows that all of them failed.
  unfold escape
  split
  · next quote => exact short (by rw [quote]; rfl)
  split
  · next backslash => exact short (by rw [backslash]; rfl)
  split
  · next lineFeed => exact short (by rw [lineFeed]; rfl)
  split
  · next carriageReturn => exact short (by rw [carriageReturn]; rfl)
  split
  · next tab => exact short (by rw [tab]; rfl)
  split
  · next backspace => exact short (by rw [backspace]; rfl)
  split
  · next formFeed => exact short (by rw [formFeed]; rfl)
  split
  · next control =>
    refine ⟨.code c.toNat, Unit16.denotes_code control, fun rest => ?_⟩
    simp only [List.cons_append, List.nil_append, scanUnits, hexUnit?_control control]
    cases scanUnits rest <;> rfl
  · next quote backslash _ _ _ _ _ visible =>
    exact ⟨.char c, Unit16.denotes_char c, scanUnits_visible quote backslash visible⟩

theorem exists_scanUnits_escaped (cs rest : List Char) :
    ∃ units, scanUnits (cs.flatMap escape ++ '"' :: rest) = some (units, rest) ∧
      joinUnits units = some cs := by
  induction cs with
  | nil => exact ⟨[], rfl, rfl⟩
  | cons c cs ih =>
    obtain ⟨units, scanned, joined⟩ := ih
    obtain ⟨unit, denotes, escaped⟩ := exists_scanUnits_escape c
    refine ⟨unit :: units, ?_, ?_⟩
    · rw [List.flatMap_cons, List.append_assoc, escaped, scanned]
      rfl
    · rw [denotes, joined]
      rfl

theorem scan_quote {units : List Unit16} {after : List Char}
    (h : scanUnits rest = some (units, after)) :
    scan ('"' :: rest) = (scan after).map (string ((joinUnits units).map String.ofList) :: ·) := by
  rw [scan]
  split
  · next none => cases h.symm.trans none
  · next found =>
    cases h.symm.trans found
    rfl

/-- What is written for a string is scanned to the string. The induction is on the characters
between the quotes. -/
theorem scan_quoted (s : String) (rest : List Char) :
    scan (quoted s ++ rest) = (scan rest).map (string (some s) :: ·) := by
  obtain ⟨units, scanned, joined⟩ := exists_scanUnits_escaped s.toList rest
  rw [quoted, List.cons_append, List.append_assoc, List.singleton_append, scan_quote scanned,
    joined, Option.map_some, String.ofList_toList]

/-! ### Numbers -/

open Text (head_toDigits head_toDigits_ne_minus isDigit_of_mem_digits toList_toString)

/-- The text does not go on as a number does. It is so at the end of the text and before every
separator. -/
def EndsNumeral (cs : List Char) : Prop :=
  ∀ c ∈ cs.head?, isNumeralChar c = false

theorem endsNumeral_cons : EndsNumeral (c :: rest) ↔ isNumeralChar c = false := by
  simp [EndsNumeral]

/-- A number is scanned as it is written. The search for its end has to stop just there. -/
theorem scan_numeral (form : isNumeral cs = true) (all : ∀ c ∈ cs, isNumeralChar c = true)
    (ends : EndsNumeral rest) :
    scan (cs ++ rest) = (scan rest).map (scalar (numeralValue cs) :: ·) := by
  cases cs with
  | nil => cases form
  | cons c cs =>
    obtain ⟨first, all⟩ := List.forall_mem_cons.1 all
    have taken := Lists.takeWhile_append_of_head all ends
    have dropped := Lists.dropWhile_append_of_head all ends
    have blank : isSpace c = false := by
      by_contra space
      simp only [isSpace, Bool.not_eq_false, Bool.or_eq_true, decide_eq_true_eq] at space
      obtain ((rfl | rfl) | rfl) | rfl := space <;> cases first
    rw [List.cons_append, scan]
    · simp [blank, taken, dropped, form]
    all_goals
      intros
      subst_vars
      cases first

theorem isMagnitude_toDigits (n : Nat) : isMagnitude (Nat.toDigits 10 n) = true := by
  obtain rfl | positive := Nat.eq_zero_or_pos n
  · rfl
  · obtain ⟨c, cs, digits, nonzero⟩ := head_toDigits positive
    have all (d : Char) (member : d ∈ c :: cs) : d.isDigit = true :=
      isDigit_of_mem_digits (digits ▸ member)
    obtain ⟨first, all⟩ := List.forall_mem_cons.1 all
    have nothing : cs.dropWhile Char.isDigit = [] := List.dropWhile_eq_nil_iff.2 all
    rw [digits, isMagnitude, first, nothing]
    · rfl
    · exact nonzero

theorem isNumeralChar_of_mem_toString {n : Int} (h : c ∈ (toString n).toList) :
    isNumeralChar c = true := by
  have digits {m : Nat} (h : c ∈ Nat.toDigits 10 m) : isNumeralChar c = true := by
    simp [isNumeralChar, isDigit_of_mem_digits h]
  rw [toList_toString] at h
  split at h
  · exact digits h
  · obtain rfl | h := List.mem_cons.1 h
    · rfl
    · exact digits h

/-- An integer has the form of a number. It has a minus at most, and no leading zeros. -/
theorem isNumeral_toString (n : Int) : isNumeral (toString n).toList = true := by
  rw [toList_toString]
  split
  · rw [isNumeral]
    · exact isMagnitude_toDigits _
    · exact head_toDigits_ne_minus _
  · exact isMagnitude_toDigits _

/-- An integer is read as it was. The negative zero has no such form, so that nothing is lost. -/
theorem numeralValue_toString (n : Int) : numeralValue (toString n).toList = .number n := by
  have all (m : Nat) : (Nat.toDigits 10 m).all Char.isDigit = true :=
    List.all_eq_true.2 fun _ => isDigit_of_mem_digits
  rw [toList_toString]
  split
  · next nonneg =>
    rw [numeralValue, if_neg (head_toDigits_ne_minus _ _)]
    · rw [if_pos (all _), Nat.ofDigitChars_ten_toDigits, Int.toNat_of_nonneg nonneg]
    · exact head_toDigits_ne_minus _
  · next negative =>
    have nonzero : Nat.toDigits 10 (-n).toNat ≠ ['0'] := by
      obtain ⟨c, cs, digits, differs⟩ := head_toDigits (by omega : 0 < (-n).toNat)
      rw [digits]
      intro zero
      exact differs (List.cons.inj zero).1
    rw [numeralValue, if_neg (by simpa using nonzero)]
    simp only [all, if_true, Nat.ofDigitChars_ten_toDigits]
    congr
    omega

end StaticWiring.Json.Token
