import Mathlib.Data.List.Basic
import StaticWiring.Java.Literal

/-!
# How Java reads literals

A compiler reads source text in two phases. Unicode escapes are translated first, so that the text
becomes code units of UTF-16: a backslash begins an escape if it is behind an even number of
backslashes, and is followed by at least one `u` and by four hexadecimal digits. The code units are
then divided into tokens. A string or a character stands between quotes, on one line, and may have
escapes of its own; three double quotes begin a text block instead.

## Main definitions

* `Java.Source.utf16` — the code units of a text.
* `Java.Source.translate` — the code units of source text, with its Unicode escapes translated.
* `Java.Source.readUnits` — the value of what stands before a closing quote, and what follows it.
* `Java.Source.readString` — the value of a string literal, and what follows it.
* `Java.Source.readChar` — the value of a character literal, and what follows it.
* `Java.IsStringLiteral`, `Java.IsCharLiteral` — the text is a literal and nothing else.

## Main results

* `Java.Source.utf16_injective` — a text is given by its code units.
* `Java.IsStringLiteral.unique` — a literal has one value.
-/

namespace StaticWiring.Java

namespace Source

/-! ### Code units -/

/-- The code unit of a character below U+10000. It is cut off for all others. -/
def unit (c : Char) : UInt16 :=
  .ofNat c.toNat

/-- The code units of a character: one, or a pair of surrogates from U+10000 on. Both halves of a
pair lie in ranges that no character has. -/
def units (c : Char) : List UInt16 :=
  if c.toNat < 0x10000 then [unit c]
  else
    [.ofNat (0xD800 + (c.toNat - 0x10000) / 0x400), .ofNat (0xDC00 + (c.toNat - 0x10000) % 0x400)]

/-- The code units of a text. It is the form in which strings are stored at run time. -/
def utf16 (cs : List Char) : List UInt16 :=
  cs.flatMap units

/-! ### Unicode escapes -/

/-- The value of a hexadecimal digit. Small and capital letters are both digits. -/
def hexDigit? (c : Char) : Option Nat :=
  if '0' ≤ c ∧ c ≤ '9' then some (c.toNat - '0'.toNat)
  else if 'a' ≤ c ∧ c ≤ 'f' then some (c.toNat - 'a'.toNat + 10)
  else if 'A' ≤ c ∧ c ≤ 'F' then some (c.toNat - 'A'.toNat + 10)
  else none

/-- The code unit that four hexadecimal digits stand for. The first digit counts most. -/
def hexUnit? (a b c d : Char) : Option UInt16 := do
  let a ← hexDigit? a
  let b ← hexDigit? b
  let c ← hexDigit? c
  let d ← hexDigit? d
  return .ofNat (((a * 16 + b) * 16 + c) * 16 + d)

mutual

/-- The code units of source text, with its Unicode escapes translated, unless one is malformed. A
backslash that another one follows begins no escape, and neither does the other one. -/
def translate : List Char → Option (List UInt16)
  | [] => some []
  | '\\' :: '\\' :: cs => (translate cs).map ([unit '\\', unit '\\'] ++ ·)
  | '\\' :: 'u' :: cs => translateDigits cs
  | c :: cs => (translate cs).map (units c ++ ·)

/-- The code units of source text behind the beginning of a Unicode escape. More letters of the
marker may follow it. -/
def translateDigits : List Char → Option (List UInt16)
  | 'u' :: cs => translateDigits cs
  | a :: b :: c :: d :: cs =>
    match hexUnit? a b c d with
    | some digits => (translate cs).map (digits :: ·)
    | none => none
  | _ => none

end

/-! ### Between quotes -/

/-- The code unit that a one-letter escape stands for. Other letters form no escape. -/
def letterEscape? (e : UInt16) : Option UInt16 :=
  [(unit 'b', unit '\x08'), (unit 's', unit ' '), (unit 't', unit '\t'), (unit 'n', unit '\n'),
    (unit 'f', unit '\x0c'), (unit 'r', unit '\r'), (unit '"', unit '"'), (unit '\'', unit '\''),
    (unit '\\', unit '\\')].lookup e

/-- The code unit is an octal digit. The digits eight and nine are none. -/
def isOctalDigit (u : UInt16) : Bool :=
  unit '0' ≤ u && u ≤ unit '7'

/-- The digits of an octal escape: up to two, or up to three that begin with a small one. The value
then fits into eight bits. -/
def octalDigits (us : List UInt16) : List UInt16 :=
  (us.takeWhile isOctalDigit).take (if us.head?.all (· ≤ unit '3') then 3 else 2)

/-- The code unit of an escape behind its backslash, and what follows it. Unicode escapes were
translated before, and are no longer seen here. -/
def readEscape : List UInt16 → Option (UInt16 × List UInt16)
  | [] => none
  | e :: us =>
    match letterEscape? e with
    | some u => some (u, us)
    | none =>
      if isOctalDigit e then
        let digits := octalDigits (e :: us)
        some (digits.foldl (fun n u => n * 8 + (u - unit '0')) 0, us.drop (digits.length - 1))
      else none

theorem length_lt_of_readEscape {us rest : List UInt16} {u : UInt16}
    (h : readEscape us = some (u, rest)) : rest.length < us.length := by
  rw [readEscape.eq_def] at h
  split at h
  · cases h
  · split at h
    · cases h
      exact Nat.lt_succ_self _
    · split at h
      · cases h
        rw [List.length_drop, List.length_cons]
        omega
      · cases h

/-- The value of what stands before a closing quote, and what follows the quote. A line may not end
before it. -/
def readUnits (quote : UInt16) : List UInt16 → Option (List UInt16 × List UInt16)
  | [] => none
  | u :: us =>
    if u = quote then some ([], us)
    else if u = unit '\n' ∨ u = unit '\r' then none
    else if u = unit '\\' then
      match h : readEscape us with
      | some (v, rest) =>
        have := length_lt_of_readEscape h
        (readUnits quote rest).map fun (vs, after) => (v :: vs, after)
      | none => none
    else (readUnits quote us).map fun (vs, after) => (u :: vs, after)
termination_by us => us.length

/-- The value of a string literal, and what follows it. Three quotes would begin a text block. -/
def readString : List UInt16 → Option (List UInt16 × List UInt16)
  | [] => none
  | u :: us =>
    if u = unit '"' ∧ ¬ [unit '"', unit '"'] <+: us then readUnits (unit '"') us else none

/-- The value of a character literal, and what follows it: exactly one code unit stands between its
quotes. -/
def readChar : List UInt16 → Option (UInt16 × List UInt16)
  | [] => none
  | u :: us =>
    if u = unit '\'' then
      match readUnits (unit '\'') us with
      | some ([v], after) => some (v, after)
      | _ => none
    else none

/-! ### Texts and their code units -/

variable {c d : Char} {cs : List Char} {us vs : List UInt16} {quote u v : UInt16}

theorem toNat_unit (small : c.toNat < 0x10000) : (unit c).toNat = c.toNat := by
  rw [unit, UInt16.toNat_ofNat']
  omega

theorem unit_inj (small : c.toNat < 0x10000) (small' : d.toNat < 0x10000) :
    unit c = unit d ↔ c = d := by
  refine ⟨fun same => Char.toNat_inj.1 ?_, congrArg unit⟩
  rw [← toNat_unit small, same, toNat_unit small']

/-- A character is no half of a surrogate pair. It is below the range of surrogates or behind it. -/
theorem toNat_bounds (c : Char) :
    c.toNat < 0xD800 ∨ 0xDFFF < c.toNat ∧ c.toNat < 0x110000 :=
  c.valid

theorem units_append_inj (same : units c ++ us = units d ++ vs) : c = d ∧ us = vs := by
  have bounds := toNat_bounds c
  have bounds' := toNat_bounds d
  unfold units at same
  split at same <;> split at same
  · next small small' =>
    obtain ⟨first, others⟩ := List.cons.inj same
    exact ⟨(unit_inj small small').1 first, others⟩
  · next small _ =>
    have first := congrArg UInt16.toNat (List.cons.inj same).1
    rw [toNat_unit small, UInt16.toNat_ofNat'] at first
    omega
  · next _ small' =>
    have first := congrArg UInt16.toNat (List.cons.inj same).1
    rw [toNat_unit small', UInt16.toNat_ofNat'] at first
    omega
  · obtain ⟨first, others⟩ := List.cons.inj same
    obtain ⟨second, others⟩ := List.cons.inj others
    have first := congrArg UInt16.toNat first
    have second := congrArg UInt16.toNat second
    rw [UInt16.toNat_ofNat', UInt16.toNat_ofNat'] at first second
    exact ⟨Char.toNat_inj.1 (by omega), others⟩

/-- The code unit of a character is no part of another one. It cannot be mistaken for the beginning
or the end of a pair. -/
theorem unit_not_mem_units (small : d.toNat < 0xD800) (differs : c ≠ d) : unit d ∉ units c := by
  have value : (unit d).toNat = d.toNat := toNat_unit (by omega)
  have bounds := toNat_bounds c
  rw [units]
  split
  · next small' =>
    rw [List.mem_singleton, unit_inj (by omega) small']
    exact differs.symm
  · simp only [List.mem_cons, List.not_mem_nil, or_false, not_or]
    constructor <;>
    · intro same
      have same := congrArg UInt16.toNat same
      rw [value, UInt16.toNat_ofNat'] at same
      omega

theorem units_ne_nil (c : Char) : units c ≠ [] := by
  rw [units]
  split <;> exact List.cons_ne_nil _ _

/-- Texts with the same code units are the same. A pair can be told from two single units. -/
theorem utf16_injective : Function.Injective utf16 := by
  intro cs ds same
  induction cs generalizing ds with
  | nil =>
    cases ds with
    | nil => rfl
    | cons d ds => exact absurd (List.append_eq_nil_iff.1 same.symm).1 (units_ne_nil d)
  | cons c cs ih =>
    cases ds with
    | nil => exact absurd (List.append_eq_nil_iff.1 same).1 (units_ne_nil c)
    | cons d ds =>
      obtain ⟨rfl, others⟩ := units_append_inj same
      rw [ih others]

/-- A character has one code unit, its own, if and only if it lies below U+10000. All other
characters have two units. -/
theorem units_eq_singleton_iff : units c = [u] ↔ c.toNat < 0x10000 ∧ u = unit c := by
  rw [units]
  split
  · next small => simp only [small, true_and, List.cons.injEq, and_true, eq_comm]
  · next large => simp [large]

/-! ### Translating -/

theorem translate_cons (plain : c ≠ '\\') (cs : List Char) :
    translate (c :: cs) = (translate cs).map (units c ++ ·) := by
  rw [translate.eq_def]
  split
  · next none => cases none
  · next pair => exact absurd (List.cons.inj pair).1 plain
  · next escape => exact absurd (List.cons.inj escape).1 plain
  · next same =>
    obtain ⟨rfl, rfl⟩ := List.cons.inj same
    rfl

/-- A backslash and what is behind it are translated together, unless they begin a Unicode
escape. -/
theorem translate_backslash (marker : c ≠ 'u') (cs : List Char) :
    translate ('\\' :: c :: cs) = (translate cs).map (unit '\\' :: units c ++ ·) := by
  by_cases pair : c = '\\'
  · subst pair
    rfl
  · rw [translate, translate_cons pair, Option.map_map]
    · rfl
    · exact fun _ _ same => pair (List.cons.inj same).1
    · exact fun _ _ same => marker (List.cons.inj same).1

-- What looks like an escape is none behind an escaped backslash.
example : translate "\\\\u0041".toList = some ("\\\\u0041".toList.map unit) := by
  decide

theorem translate_unicode {a b c d : Char} {digits : UInt16} (marker : a ≠ 'u')
    (found : hexUnit? a b c d = some digits) (cs : List Char) :
    translate ('\\' :: 'u' :: a :: b :: c :: d :: cs) = (translate cs).map (digits :: ·) := by
  rw [translate, translateDigits, found]
  exact fun same => marker same

/-! ### Reading -/

theorem readUnits_quote (quote : UInt16) (us : List UInt16) :
    readUnits quote (quote :: us) = some ([], us) := by
  rw [readUnits, if_pos rfl]

theorem readUnits_plain (differs : u ≠ quote) (lineFeed : u ≠ unit '\n')
    (carriageReturn : u ≠ unit '\r') (backslash : u ≠ unit '\\') (us : List UInt16) :
    readUnits quote (u :: us) =
      (readUnits quote us).map fun (vs, after) => (u :: vs, after) := by
  rw [readUnits, if_neg differs, if_neg (not_or_intro lineFeed carriageReturn), if_neg backslash]

theorem readUnits_append (after : List UInt16) (plain : ∀ u ∈ us,
      u ≠ quote ∧ u ≠ unit '\n' ∧ u ≠ unit '\r' ∧ u ≠ unit '\\') :
    readUnits quote (us ++ after) =
      (readUnits quote after).map fun (vs, behind) => (us ++ vs, behind) := by
  induction us with
  | nil => exact Option.map_id'.symm
  | cons u us ih =>
    obtain ⟨⟨differs, lineFeed, carriageReturn, backslash⟩, others⟩ := List.forall_mem_cons.1 plain
    rw [List.cons_append, readUnits_plain differs lineFeed carriageReturn backslash, ih others,
      Option.map_map]
    rfl

theorem readUnits_letter (differs : unit '\\' ≠ quote) (found : letterEscape? u = some v)
    (us : List UInt16) :
    readUnits quote (unit '\\' :: u :: us) =
      (readUnits quote us).map fun (vs, after) => (v :: vs, after) := by
  have read : readEscape (u :: us) = some (v, us) := by
    rw [readEscape, found]
  rw [readUnits, if_neg differs, if_neg (by decide), if_pos rfl]
  split
  · next found' =>
    cases read.symm.trans found'
    rfl
  · next none => cases read.symm.trans none

/-- A literal is closed by the first quote in it that is not escaped: nothing closes a text block
that it is not. -/
theorem readString_cons {value after : List UInt16}
    (read : readUnits (unit '"') us = some (value, after)) (closed : unit '"' ∉ after.head?) :
    readString (unit '"' :: us) = some (value, after) := by
  refine (if_pos ⟨rfl, ?_⟩).trans read
  rintro ⟨behind, rfl⟩
  rw [List.cons_append, readUnits_quote] at read
  cases read
  exact closed rfl

/-- A character literal holds one code unit. Several units between the quotes, or none, are refused.
-/
theorem readChar_cons {value : List UInt16}
    (read : readUnits (unit '\'') us = some (value, vs)) :
    readChar (unit '\'' :: us) = some (v, []) ↔ value = [v] ∧ vs = [] := by
  rw [readChar, if_pos rfl, read]
  split
  · next found =>
    cases found
    simp
  · next other =>
    refine iff_of_false nofun ?_
    rintro ⟨rfl, -⟩
    exact other _ _ rfl

end Source

/-- The source text is one string literal on one line, with the value, and nothing else: its first
quote that is not escaped behind the opening one is its end. -/
structure IsStringLiteral (source : List Char) (value : String) : Prop where
  /-- No line ends in the text. -/
  one_line : ∀ c ∈ source, c ≠ '\n' ∧ c ≠ '\r'
  /-- The literal is read up to its closing quote, and nothing follows. -/
  read : (Source.translate source).bind Source.readString =
    some (Source.utf16 value.toList, [])

/-- The source text is one character literal on one line, with the code unit, and nothing else. A
pair of surrogates is no such literal. -/
structure IsCharLiteral (source : List Char) (value : UInt16) : Prop where
  /-- No line ends in the text. -/
  one_line : ∀ c ∈ source, c ≠ '\n' ∧ c ≠ '\r'
  /-- The literal is read up to its closing quote, and nothing follows. -/
  read : (Source.translate source).bind Source.readChar = some (value, [])

/-- A literal has one value. What is read is determined by the text. -/
theorem IsStringLiteral.unique {source : List Char} {value other : String}
    (h : IsStringLiteral source value) (h' : IsStringLiteral source other) : value = other := by
  have same := congrArg Prod.fst (Option.some.inj (h.read.symm.trans h'.read))
  exact String.toList_inj.1 (Source.utf16_injective same)

end StaticWiring.Java
