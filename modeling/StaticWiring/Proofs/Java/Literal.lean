import StaticWiring.Proofs.Java.Source

/-!
# Literals are read to what they stand for

What is written for a character between quotes is read to the code units of the character, whatever
stands around it. A literal is therefore closed by its own quote, and its value is what it was
written for.

## Main definitions

* `Java.Source.Denotes` — a piece of a literal stands for code units, whatever follows it.
* `Java.Source.IsWritten` — the forms in which a character is written.

## Main results

* `Java.hexDigits_four` — the digits of a code unit.
* `Java.Source.isWritten_escape`, `Java.Source.IsWritten.denotes` — the written form of a character
  stands for the character.
* `Java.read_quoted`, `Java.read_stringLiteral` — what is written between quotes, wherever it
  stands.
* `Java.isStringLiteral_stringLiteral` — the literal of a string by itself.
* `Java.isCharLiteral_charLiteral_iff` — the literal of a character by itself.
-/

namespace StaticWiring.Java

open Text (hexDigits)

variable {n width : Nat} {c quote : Char} {piece : List Char}

/-! ### Hexadecimal digits -/

theorem hexDigits_succ (positive : 0 < width) (n : Nat) :
    hexDigits (width + 1) n = hexDigits width (n / 16) ++ [(n % 16).digitChar] := by
  obtain ⟨width, rfl⟩ := Nat.exists_eq_add_of_lt positive
  by_cases small : n < 16
  · have digits : Nat.toDigits 16 n = [n.digitChar] := Nat.toDigits_of_lt_base small
    have none : Nat.toDigits 16 0 = ['0'] := rfl
    simp only [hexDigits, digits, Nat.div_eq_of_lt small, Nat.mod_eq_of_lt small, none]
    simp [← List.replicate_succ', List.replicate_succ]
  · have digits := Nat.toDigits_of_base_le (b := 16) (by decide) (Nat.le_of_not_lt small)
    simp [hexDigits, digits]

/-- A code unit has four digits. Leading zeros are written as well. -/
theorem hexDigits_four (h : n < 0x10000) :
    hexDigits 4 n = [(n / 4096).digitChar, (n / 256 % 16).digitChar, (n / 16 % 16).digitChar,
      (n % 16).digitChar] := by
  have first : hexDigits 1 (n / 4096) = [(n / 4096).digitChar] := by
    rw [hexDigits, Nat.toDigits_of_lt_base (by omega)]
    rfl
  rw [hexDigits_succ (by decide), hexDigits_succ (by decide), hexDigits_succ (by decide)]
  simp only [Nat.div_div_eq_div_mul, first, List.cons_append, List.nil_append]

theorem hexDigit?_digitChar (h : n < 16) : Source.hexDigit? n.digitChar = some n := by
  revert n
  decide

/-- No digit begins a Unicode escape or ends a line. It can therefore stand in any literal. -/
theorem digitChar_ne (h : n < 16) :
    n.digitChar ≠ 'u' ∧ n.digitChar ≠ '\n' ∧ n.digitChar ≠ '\r' := by
  revert n
  decide

/-! ### Pieces of a literal -/

namespace Source

/-- The piece of a literal stands for the code units, whatever follows it: it is translated by
itself, and it is read up to its end. -/
def Denotes (quote : Char) (piece : List Char) (value : List UInt16) : Prop :=
  ∃ us, (∀ rest, translate (piece ++ rest) = (translate rest).map (us ++ ·)) ∧
    ∀ after, readUnits (unit quote) (us ++ after) =
      (readUnits (unit quote) after).map fun (vs, behind) => (value ++ vs, behind)

theorem denotes_nil (quote : Char) : Denotes quote [] [] := by
  refine ⟨[], fun rest => ?_, fun after => ?_⟩
  · exact Option.map_id'.symm
  · exact Option.map_id'.symm

theorem Denotes.append {piece' : List Char} {value value' : List UInt16}
    (h : Denotes quote piece value) (h' : Denotes quote piece' value') :
    Denotes quote (piece ++ piece') (value ++ value') := by
  obtain ⟨us, translated, read⟩ := h
  obtain ⟨us', translated', read'⟩ := h'
  refine ⟨us ++ us', fun rest => ?_, fun after => ?_⟩
  · rw [List.append_assoc, translated, translated', Option.map_map]
    simp only [Function.comp_def, List.append_assoc]
  · rw [List.append_assoc, read, read', Option.map_map]
    simp only [Function.comp_def, List.append_assoc]

theorem denotes_flatMap {write : Char → List Char} (h : ∀ c, Denotes quote (write c) (units c))
    (cs : List Char) : Denotes quote (cs.flatMap write) (utf16 cs) := by
  induction cs with
  | nil => exact denotes_nil quote
  | cons c cs ih => exact (h c).append ih

/-! ### What a character is written as -/

/-- The letters that escape a character behind a backslash. They are the escapes that are written,
and fewer than those that can be read. -/
def letters : List (Char × Char) :=
  [('\\', '\\'), ('n', '\n'), ('r', '\r'), ('t', '\t'), ('"', '"'), ('\'', '\'')]

/-- Escapes of one letter are on one line, and are read as what they are written for. They are
checked one by one, as there are only a few. -/
theorem letterEscape?_of_mem_letters : ∀ entry ∈ letters,
    entry.1 ≠ 'u' ∧ entry.1 ≠ '\n' ∧ entry.1 ≠ '\r' ∧ units entry.1 = [unit entry.1] ∧
      units entry.2 = [unit entry.2] ∧ letterEscape? (unit entry.1) = some (unit entry.2) := by
  decide

/-- The character does not end a literal, a line or what stands in front of an escape. Such a
character may be written as itself. -/
structure IsPlain (quote c : Char) : Prop where
  /-- The character is not the quote. -/
  ne_quote : c ≠ quote
  /-- The character is not a backslash. -/
  ne_backslash : c ≠ '\\'
  /-- The character is not a line feed. -/
  ne_lineFeed : c ≠ '\n'
  /-- The character is not a carriage return. -/
  ne_carriageReturn : c ≠ '\r'

/-- The forms in which a character is written between quotes. Which of them is chosen is left open
here, so that the reader need not know it. -/
inductive IsWritten (quote c : Char) : List Char → Prop
  /-- A letter behind a backslash. -/
  | letter {e : Char} (listed : (e, c) ∈ letters) : IsWritten quote c ['\\', e]
  /-- The digits of its code unit. -/
  | unicode (plain : IsPlain quote c) (small : c.toNat < 0x10000) :
    IsWritten quote c ('\\' :: 'u' :: hexDigits 4 c.toNat)
  /-- The character itself. -/
  | self (plain : IsPlain quote c) : IsWritten quote c [c]

theorem isWritten_escape (hq : quote = '"' ∨ quote = '\'') (c : Char) :
    IsWritten quote c (escape quote c) := by
  unfold escape
  split
  · next same => exact .letter (by rw [same]; decide)
  split
  · next same => exact .letter (by rw [same]; decide)
  split
  · next same => exact .letter (by rw [same]; decide)
  split
  · next same => exact .letter (by rw [same]; decide)
  split
  · next same =>
    subst same
    exact .letter (by rcases hq with rfl | rfl <;> decide)
  · next backslash lineFeed carriageReturn _ differs =>
    have plain : IsPlain quote c := ⟨differs, backslash, lineFeed, carriageReturn⟩
    split
    · next control =>
      simp only [isControl, Bool.or_eq_true, Bool.and_eq_true, decide_eq_true_eq] at control
      exact .unicode plain (by omega)
    · exact .self plain

/-! ### What is written stands for the character -/

/-- A character that needs no escape, be it as itself or translated before, is read as itself. The
quote itself is a single byte, and no other unit can be mistaken for it. -/
theorem readUnits_units (ascii : quote.toNat < 0x80) (plain : IsPlain quote c)
    (after : List UInt16) :
    readUnits (unit quote) (units c ++ after) =
      (readUnits (unit quote) after).map fun (vs, behind) => (units c ++ vs, behind) := by
  refine readUnits_append after fun u member => ⟨?_, ?_, ?_, ?_⟩
  · exact ne_of_mem_of_not_mem member (unit_not_mem_units (by omega) plain.ne_quote)
  · exact ne_of_mem_of_not_mem member (unit_not_mem_units (by decide) plain.ne_lineFeed)
  · exact ne_of_mem_of_not_mem member (unit_not_mem_units (by decide) plain.ne_carriageReturn)
  · exact ne_of_mem_of_not_mem member (unit_not_mem_units (by decide) plain.ne_backslash)

/-- The digits of the code unit of a character are those of the character. They are translated
before literals are read. -/
theorem translate_digits (small : c.toNat < 0x10000) (rest : List Char) :
    translate ('\\' :: 'u' :: (hexDigits 4 c.toNat ++ rest)) =
      (translate rest).map (units c ++ ·) := by
  have found : hexUnit? (c.toNat / 4096).digitChar (c.toNat / 256 % 16).digitChar
      (c.toNat / 16 % 16).digitChar (c.toNat % 16).digitChar = some (unit c) := by
    have first : c.toNat / 4096 < 16 := by omega
    simp only [hexUnit?, hexDigit?_digitChar first, hexDigit?_digitChar (Nat.mod_lt _ (by decide)),
      Option.bind_eq_bind, Option.bind_some, Option.pure_def, unit]
    congr 2
    omega
  rw [hexDigits_four small, units, if_pos small]
  exact translate_unicode (digitChar_ne (by omega)).1 found rest

/-- What is written for a character stands for the character. The proof goes through the forms, of
which only one depends on the translation. -/
theorem IsWritten.denotes (hq : quote = '"' ∨ quote = '\'') (h : IsWritten quote c piece) :
    Denotes quote piece (units c) := by
  have ascii : quote.toNat < 0x80 := by
    rcases hq with rfl | rfl <;> decide
  cases h with
  | @letter e listed =>
    obtain ⟨marker, -, -, one, one', found⟩ := letterEscape?_of_mem_letters _ listed
    have closing : unit '\\' ≠ unit quote := by
      rcases hq with rfl | rfl <;> decide
    refine ⟨unit '\\' :: units e, translate_backslash marker, fun after => ?_⟩
    rw [one, one', List.cons_append, List.cons_append, List.nil_append,
      readUnits_letter closing found]
    rfl
  | unicode plain small => exact ⟨units c, translate_digits small, readUnits_units ascii plain⟩
  | self plain =>
    exact ⟨units c, translate_cons plain.ne_backslash, readUnits_units ascii plain⟩

/-- No line ends within what is written for a character. Line ends are always escaped. -/
theorem IsWritten.one_line (h : IsWritten quote c piece) :
    ∀ d ∈ piece, d ≠ '\n' ∧ d ≠ '\r' := by
  cases h with
  | letter listed =>
    obtain ⟨-, lineFeed, carriageReturn, -⟩ := letterEscape?_of_mem_letters _ listed
    simpa using ⟨lineFeed, carriageReturn⟩
  | unicode plain small =>
    rw [hexDigits_four small]
    simp only [List.forall_mem_cons, List.not_mem_nil, false_imp_iff, implies_true, and_true]
    have digit {n : Nat} (h : n < 16) := (digitChar_ne h).2
    exact ⟨by decide, by decide, digit (by omega), digit (by omega), digit (by omega),
      digit (by omega)⟩
  | self plain => simpa using ⟨plain.ne_lineFeed, plain.ne_carriageReturn⟩

end Source

/-! ### Literals -/

open Source

/-- What is written between quotes is read to what it was written for, whatever stands behind it:
the code units `us` behind the opening quote are those of the source text, in front of the
translated rest. -/
theorem read_quoted (hq : quote = '"' ∨ quote = '\'') (cs : List Char) :
    ∃ us, (∀ rest, Source.translate ((quoted quote cs).toList ++ rest) =
        (Source.translate rest).map (unit quote :: us ++ ·)) ∧
      ∀ after, readUnits (unit quote) (us ++ after) = some (utf16 cs, after) := by
  obtain ⟨us, translated, read⟩ :=
    denotes_flatMap (fun c => (isWritten_escape hq c).denotes hq) cs
  have plain : quote ≠ '\\' ∧ units quote = [unit quote] := by
    rcases hq with rfl | rfl <;> decide
  refine ⟨us ++ [unit quote], fun rest => ?_, fun after => ?_⟩
  · rw [quoted, String.toList_ofList, List.cons_append, translate_cons plain.1, List.append_assoc,
      translated, List.singleton_append, translate_cons plain.1, plain.2, Option.map_map,
      Option.map_map]
    simp only [Function.comp_def, List.cons_append, List.nil_append, List.append_assoc]
  · rw [List.append_assoc, List.singleton_append, read, readUnits_quote]
    simp only [Option.map_some, List.append_nil]

/-- No line ends in a literal. Neither a quote nor what stands between the quotes ends one. -/
theorem one_line_quoted (hq : quote = '"' ∨ quote = '\'') (cs : List Char) :
    ∀ c ∈ (quoted quote cs).toList, c ≠ '\n' ∧ c ≠ '\r' := by
  intro c written
  have plain : quote ≠ '\n' ∧ quote ≠ '\r' := by
    rcases hq with rfl | rfl <;> decide
  rw [quoted, String.toList_ofList] at written
  simp only [List.mem_cons, List.mem_append, List.mem_flatMap, List.not_mem_nil, or_false]
    at written
  rcases written with rfl | ⟨d, -, written⟩ | rfl
  · exact plain
  · exact (isWritten_escape hq d).one_line c written
  · exact plain

/-- The literal of a string is read to the string, whatever stands behind it: its code units `us`
are those of the source text in front of the translated rest, and another quote behind it would
begin a text block if the string is empty. -/
theorem read_stringLiteral (s : String) :
    ∃ us, (∀ rest, Source.translate ((stringLiteral s).toList ++ rest) =
        (Source.translate rest).map (us ++ ·)) ∧
      ∀ after : List UInt16, unit '"' ∉ after.head? →
        readString (us ++ after) = some (utf16 s.toList, after) := by
  obtain ⟨us, translated, read⟩ := read_quoted (.inl rfl) s.toList
  exact ⟨unit '"' :: us, translated, fun after closed => readString_cons (read after) closed⟩

/-- The literal of a string is a single literal, and its value is the string. It holds of every
string, with any characters in it. -/
theorem isStringLiteral_stringLiteral (s : String) :
    IsStringLiteral (stringLiteral s).toList s := by
  obtain ⟨us, translated, read⟩ := read_stringLiteral s
  constructor
  · intro c written
    rw [stringLiteral, quoted, String.toList_ofList] at written
    simp only [List.mem_cons, List.mem_append, List.mem_flatMap, List.not_mem_nil, or_false]
      at written
    rcases written with rfl | ⟨d, -, written⟩ | rfl
    · decide
    · exact (isWritten_escape (.inl rfl) d).one_line c written
    · decide
  · have whole := translated []
    rw [List.append_nil] at whole
    rw [whole, Source.translate, Option.map_some, Option.bind_some]
    exact read [] (by simp)

/-- The literal of a character is one, with a code unit as its value, if and only if the character
has this one code unit. -/
theorem isCharLiteral_charLiteral_iff {u : UInt16} :
    IsCharLiteral (charLiteral c).toList u ↔ units c = [u] := by
  obtain ⟨us, translated, read⟩ := read_quoted (.inr rfl) [c]
  have whole := translated []
  rw [List.append_nil, Source.translate, Option.map_some, List.append_nil] at whole
  have value : readUnits (unit '\'') us = some (units c, []) := by
    have ended := read []
    rwa [List.append_nil, utf16, List.flatMap_singleton] at ended
  have found : (Source.translate (charLiteral c).toList).bind readChar = some (u, []) ↔
      units c = [u] := by
    rw [charLiteral, whole, Option.bind_some, readChar_cons value]
    exact and_iff_left rfl
  exact ⟨fun h => found.1 h.read, fun single => ⟨one_line_quoted (.inr rfl) [c], found.2 single⟩⟩

end StaticWiring.Java
