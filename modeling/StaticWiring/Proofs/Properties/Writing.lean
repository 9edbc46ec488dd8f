import StaticWiring.Proofs.Lists
import StaticWiring.Proofs.Text.Lines
import StaticWiring.Properties

/-!
# Writing property files

Entries whose keys are not empty can be written to a property file. A character is written as one
unit: as itself, or with a backslash in front of it where it would be taken for something else.
Between two units of an entry the line may be broken by a continuation, and blank lines and comments
may stand around the entries. No unit starts with white space or a comment mark, and none ends with
an odd number of backslashes, so that a file is read unit by unit wherever its lines are broken.

## Main definitions

* `Properties.unit`, `Properties.unitsOf` — how characters and entries are written.
* `Properties.Indent`, `Properties.Remark` — the white space of continued lines, and lines that are
  passed over.
* `Properties.Spacing`, `Properties.write` — a file with any continuations and remarks.

## Main results

* `Properties.logicalLines_unit`, `Properties.logicalLines_break` — the units of a line are read one
  by one, whether or not it is broken between them.
* `Properties.entry?_unitsOf` — an entry is read back from its units.
* `Properties.parse_write` — all entries are read back from a file.
-/

namespace StaticWiring

namespace Properties

variable {c d : Char} {u v cs line pending : List Char} {us ls : List (List Char)}
  {entries : List (String × String)}

/-! ### The written form -/

/-- A character as it is written in a key or a value. Separators and comment marks are escaped
everywhere, though they need not be in a value. -/
def unit (c : Char) : List Char :=
  match c with
  | '\\' => ['\\', '\\']
  | '\t' => ['\\', 't']
  | '\n' => ['\\', 'n']
  | '\r' => ['\\', 'r']
  | '\x0c' => ['\\', 'f']
  | c => if c ∈ ['=', ':', '#', '!'] ∨ Text.isBlank c then ['\\', c] else [c]

/-- The units of an entry: those of the key, the separator, and those of the value. A line may be
broken behind any of them but the last one. -/
def unitsOf (entry : String × String) : List (List Char) :=
  entry.1.toList.map unit ++ ['='] :: entry.2.toList.map unit

/-- What a continued line starts with. They are passed over when the line is read. -/
structure Indent where
  /-- The characters. -/
  chars : List Char
  /-- They are spaces and tabs. -/
  isIndent : ∀ c ∈ chars, c = ' ' ∨ c = '\t'

/-- The line is blank, or a comment behind white space. It is passed over where no entry is pending.
-/
def IsPassed (line : List Char) : Prop :=
  (∀ c ∈ line, Text.isBlank c = true) ∨
    ∃ blanks mark text, line = blanks ++ mark :: text ∧
      (∀ c ∈ blanks, Text.isBlank c = true) ∧ (mark = '#' ∨ mark = '!')

/-- A blank line or a comment. A remark ends before its line feed. -/
structure Remark where
  /-- The characters. -/
  chars : List Char
  /-- They stand on one line. -/
  isLine : '\n' ∉ chars
  /-- The line is blank or a comment. -/
  isPassed : IsPassed chars

/-- What stands around the entries of a file and between their units. Any text that a person may
have laid out differently is given by some spacing. -/
structure Spacing where
  /-- The remarks in front of the entry at a position; behind the last entry, those at the number of
  entries. -/
  remarks : Nat → List Remark
  /-- How the entry at the first position continues on a new line, if it does, behind its unit at
  the second one. -/
  break? : Nat → Nat → Option Indent

/-- The spacing behind the first entry. The remaining entries are then written by the same
recursion. -/
def Spacing.next (s : Spacing) : Spacing where
  remarks i := s.remarks (i + 1)
  break? i := s.break? (i + 1)

/-- What is written between two units. It is a backslash, a line feed and the indentation of the
next line. -/
def continuation : Option Indent → List Char
  | none => []
  | some indent => '\\' :: '\n' :: indent.chars

/-- Units with the continuations between them. No continuation stands behind the last one. -/
def writeUnits (break? : Nat → Option Indent) : List (List Char) → List Char
  | [] => []
  | [u] => u
  | u :: us => u ++ continuation (break? 0) ++ writeUnits (fun i => break? (i + 1)) us

/-- The remarks and the entries of a file. An entry that continues takes several lines. The remarks
behind the last entry are the ones that are left. -/
def writeParts (s : Spacing) : List (String × String) → List (List Char)
  | [] => (s.remarks 0).map (·.chars)
  | entry :: entries =>
    (s.remarks 0).map (·.chars) ++
      writeUnits (s.break? 0) (unitsOf entry) :: writeParts s.next entries

/-- A file in which every part starts on a new line. It ends with a line feed if the last part is an
empty remark. -/
def write (s : Spacing) (entries : List (String × String)) : String :=
  String.ofList (['\n'].intercalate (writeParts s entries))

/-! ### Units -/

/-- A unit is an escape of its character, or the character itself if it has no meaning of its
own. -/
theorem unit_cases (c : Char) :
    (∃ e, unit c = ['\\', e] ∧ unescape e = c ∧ e ≠ '\n' ∧ e ≠ '\r') ∨
      unit c = [c] ∧ c ≠ '\\' ∧ c ≠ '#' ∧ c ≠ '!' ∧ isSeparator c = false ∧
        Text.isBlank c = false := by
  unfold unit
  split
  · exact .inl ⟨'\\', rfl, rfl, by decide, by decide⟩
  · exact .inl ⟨'t', rfl, rfl, by decide, by decide⟩
  · exact .inl ⟨'n', rfl, rfl, by decide, by decide⟩
  · exact .inl ⟨'r', rfl, rfl, by decide, by decide⟩
  · exact .inl ⟨'f', rfl, rfl, by decide, by decide⟩
  · next backslash tab feed carriage page =>
    split
    · next special =>
      refine .inl ⟨c, rfl, ?_, feed, carriage⟩
      unfold unescape
      split
      all_goals first | rfl | exact absurd special (by decide)
    · next plain =>
      simp only [List.mem_cons, List.not_mem_nil, or_false, not_or, Bool.not_eq_true] at plain
      obtain ⟨⟨equals, colon, hash, bang⟩, visible⟩ := plain
      exact .inr ⟨rfl, backslash, hash, bang, by simp [isSeparator, equals, colon], visible⟩

/-- The text is read as a whole on its line: it starts visibly, with no comment mark, and does not
continue on the next line. -/
structure IsUnit (u : List Char) : Prop where
  /-- The first character is neither white space nor a comment mark. -/
  starts : ∃ c cs, u = c :: cs ∧ Text.isBlank c = false ∧ c ≠ '#' ∧ c ≠ '!'
  /-- There is no line feed. -/
  isLine : '\n' ∉ u
  /-- There is no carriage return. -/
  noReturn : '\r' ∉ u
  /-- The number of backslashes at the end is even. -/
  closed : continues u = false

theorem continues_escape (c : Char) : continues ['\\', c] = false := by
  by_cases backslash : c = '\\'
  · subst backslash
    rfl
  · simp [continues, backslash]

theorem isUnit_unit (c : Char) : IsUnit (unit c) := by
  rcases unit_cases c with ⟨e, written, -, feed, carriage⟩ |
    ⟨written, backslash, hash, bang, -, visible⟩
  · rw [written]
    exact ⟨⟨'\\', [e], rfl, by decide, by decide, by decide⟩, by simp [Ne.symm feed],
      by simp [Ne.symm carriage], continues_escape e⟩
  · have feed : '\n' ≠ c := by
      rintro rfl
      cases visible
    have carriage : '\r' ≠ c := by
      rintro rfl
      cases visible
    rw [written]
    exact ⟨⟨c, [], rfl, visible, hash, bang⟩, by simp [feed], by simp [carriage],
      by simp [continues, backslash]⟩

theorem isUnit_equals : IsUnit ['='] :=
  ⟨⟨'=', [], rfl, by decide, by decide, by decide⟩, by decide, by decide, rfl⟩

theorem isUnit_of_mem_unitsOf {entry : String × String} (h : u ∈ unitsOf entry) : IsUnit u := by
  rcases List.mem_append.1 h with h | h
  · obtain ⟨c, -, rfl⟩ := List.mem_map.1 h
    exact isUnit_unit c
  · rcases List.mem_cons.1 h with rfl | h
    · exact isUnit_equals
    · obtain ⟨c, -, rfl⟩ := List.mem_map.1 h
      exact isUnit_unit c

/-! ### Logical lines -/

/-- The backslashes at the end of a unit do not count for what follows it. Whether a line continues
is decided by what stands behind its last unit. -/
theorem continues_append (closed : continues u = false) (cs : List Char) :
    continues (u ++ cs) = continues cs := by
  simp only [continues, beq_eq_false_iff_ne, ne_eq] at closed
  rw [continues, continues, List.reverse_append, List.takeWhile_append]
  split
  · next whole =>
    rw [List.length_append, ← whole, Bool.eq_iff_iff, beq_iff_eq, beq_iff_eq]
    omega
  · rfl

theorem trimStart_cons (visible : Text.isBlank c = false) (cs : List Char) :
    Text.trimStart (c :: cs) = c :: cs := by
  simp [Text.trimStart, visible]

theorem trimStart_append (blanks : ∀ c ∈ u, Text.isBlank c = true) (cs : List Char) :
    Text.trimStart (u ++ cs) = Text.trimStart cs :=
  List.dropWhile_append_of_pos blanks

/-- A line that starts with a unit continues what is pending, or starts it. It is the only lemma
about units that unfolds the reader. -/
theorem logicalLines_of_isUnit (h : IsUnit u) (cs : List Char) (ls : List (List Char)) :
    logicalLines pending ((u ++ cs) :: ls) =
      if continues cs then logicalLines (pending ++ u ++ cs.dropLast) ls
      else (pending ++ u ++ cs) :: logicalLines [] ls := by
  obtain ⟨c, us, rfl, visible, hash, bang⟩ := h.starts
  have open_ : (pending.isEmpty && isIgnorable (c :: us ++ cs)) = false := by
    simp [isIgnorable, hash, bang]
  have whole : Text.trimStart (c :: us ++ cs) = c :: us ++ cs := trimStart_cons visible _
  simp only [logicalLines, whole, open_, continues_append h.closed, Bool.false_eq_true, if_false]
  split
  · next more =>
    have ne : cs ≠ [] := by
      rintro rfl
      cases more
    rw [List.dropLast_append_of_ne_nil ne, List.append_assoc]
  · rw [List.append_assoc]

/-- A unit is read by itself if another visible character follows on the same line. The visible
character rules out that the line continues. -/
theorem logicalLines_unit (h : IsUnit u) (visible : Text.isBlank d = false) (cs : List Char)
    (ls : List (List Char)) :
    logicalLines pending ((u ++ d :: cs) :: ls) =
      logicalLines (pending ++ u) ((d :: cs) :: ls) := by
  obtain ⟨c, us, rfl, -, -, -⟩ := h.starts
  rw [logicalLines_of_isUnit h]
  simp [logicalLines, trimStart_cons visible]

/-- A unit is read by itself if the line is broken behind it. The backslash is dropped with the
break. -/
theorem logicalLines_break (h : IsUnit u) (ls : List (List Char)) :
    logicalLines pending ((u ++ ['\\']) :: ls) = logicalLines (pending ++ u) ls := by
  have odd : continues ['\\'] = true := rfl
  rw [logicalLines_of_isUnit h, odd, if_pos rfl, List.dropLast_singleton, List.append_nil]

/-- White space in front of a line is passed over. It may be the indentation of a continued line. -/
theorem logicalLines_indent (blanks : ∀ c ∈ u, Text.isBlank c = true) (line : List Char)
    (ls : List (List Char)) :
    logicalLines pending ((u ++ line) :: ls) = logicalLines pending (line :: ls) := by
  simp only [logicalLines, trimStart_append blanks]

/-- The last unit of a line ends the logical line. Nothing continues behind it. -/
theorem logicalLines_last (h : IsUnit u) (ls : List (List Char)) :
    logicalLines pending (u :: ls) = (pending ++ u) :: logicalLines [] ls := by
  have even : ¬ continues [] = true := by decide
  rw [← List.append_nil u, logicalLines_of_isUnit h, if_neg even, List.append_nil, List.append_nil]

/-- A remark is passed over between logical lines. It would be a part of the line if that were
pending. -/
theorem logicalLines_remark (passed : IsPassed line) (ls : List (List Char)) :
    logicalLines [] (line :: ls) = logicalLines [] ls := by
  have ignorable : isIgnorable (Text.trimStart line) = true := by
    rcases passed with blank | ⟨blanks, mark, text, rfl, blank, comment⟩
    · have none : Text.trimStart line = [] := List.dropWhile_eq_nil_iff.2 blank
      rw [none]
      rfl
    · rw [trimStart_append blank]
      rcases comment with rfl | rfl <;> rfl
  simp [logicalLines, ignorable]

/-! ### Entries -/

/-- The key is read back from its units. The scan goes through the units, and stops at the first
separator that is not escaped. -/
theorem scanKey_units (key cs : List Char) :
    scanKey ((key.map unit).flatten ++ '=' :: cs) = (key, '=' :: cs) := by
  induction key with
  | nil => simp [scanKey, isSeparator]
  | cons c key ih =>
    rw [List.map_cons, List.flatten_cons, List.append_assoc]
    rcases unit_cases c with ⟨e, written, rfl, -, -⟩ | ⟨written, backslash, -, -, plain, visible⟩
    · simp [written, scanKey, ih]
    · simp [written, scanKey, backslash, plain, visible, ih]

/-- The value is read back from its units. Every escape that is written is one that is understood.
-/
theorem unescapeAll_units (value : List Char) : unescapeAll (value.map unit).flatten = value := by
  induction value with
  | nil => rfl
  | cons c value ih =>
    rw [List.map_cons, List.flatten_cons]
    rcases unit_cases c with ⟨e, written, rfl, -, -⟩ | ⟨written, backslash, -⟩
    · simp [written, unescapeAll, ih]
    · simp [written, unescapeAll, backslash, ih]

/-- The value starts behind the separator: a unit does not start with white space. White space at
the start of the value is escaped for this reason. -/
theorem dropSeparator_units (value : List Char) :
    dropSeparator ('=' :: (value.map unit).flatten) = (value.map unit).flatten := by
  have visible : Text.trimStart (value.map unit).flatten = (value.map unit).flatten := by
    cases value with
    | nil => rfl
    | cons c value =>
      obtain ⟨d, cs, written, visible, -⟩ := (isUnit_unit c).starts
      rw [List.map_cons, List.flatten_cons, written, List.cons_append, trimStart_cons visible]
  rw [dropSeparator, trimStart_cons (by decide)]
  exact visible

/-- An entry is read back from its units. The key must not be empty, since such a line would have no
entry. -/
theorem entry?_unitsOf {entry : String × String} (named : entry.1 ≠ "") :
    entry? (unitsOf entry).flatten = some entry := by
  obtain ⟨key, value⟩ := entry
  have ne : key.toList ≠ [] := by simpa using named
  rw [unitsOf, List.flatten_append, List.flatten_cons, List.singleton_append, entry?,
    scanKey_units]
  simp [ne, dropSeparator_units, unescapeAll_units]

/-! ### Files -/

theorem IsPassed.dropCarriageReturn (h : IsPassed line) :
    IsPassed (Text.dropCarriageReturn line) := by
  rcases h with blank | ⟨blanks, mark, text, rfl, blank, comment⟩
  · refine .inl fun c hc => blank c ?_
    unfold Text.dropCarriageReturn at hc
    split at hc
    · exact List.dropLast_subset _ hc
    · exact hc
  · obtain ⟨rest, starts⟩ := Text.exists_dropCarriageReturn_cons (d := mark)
      (by rcases comment with rfl | rfl <;> decide) text
    rw [Text.dropCarriageReturn_append _ (List.cons_ne_nil _ _), starts]
    exact .inr ⟨blanks, mark, rest, rfl, blank, comment⟩

/-- The remarks in front of other parts are passed over. The induction is over the remarks. -/
theorem logicalLines_remarks (remarks : List Remark) (ls : List (List Char)) :
    logicalLines [] (Text.lines (['\n'].intercalate (remarks.map (·.chars) ++ ls))) =
      logicalLines [] (Text.lines (['\n'].intercalate ls)) := by
  induction remarks with
  | nil => rfl
  | cons r remarks ih =>
    rw [← ih, List.map_cons, List.cons_append]
    by_cases last : remarks.map (·.chars) ++ ls = []
    · rw [last, List.intercalate_singleton]
      by_cases none : r.chars = []
      · rw [none]
        rfl
      · rw [Text.lines_of_not_mem r.isLine none, logicalLines_remark r.isPassed]
        rfl
    · rw [List.intercalate_cons_of_ne_nil last, List.append_assoc, List.singleton_append,
        Text.lines_append_newline r.isLine, logicalLines_remark r.isPassed.dropCarriageReturn]

/-- The last unit of a part ends the logical line, whether or not other parts follow. The line feed
between the parts is no part of either. -/
theorem logicalLines_lines_last (h : IsUnit u) (ls : List (List Char)) :
    logicalLines pending (Text.lines (['\n'].intercalate (u :: ls))) =
      (pending ++ u) :: logicalLines [] (Text.lines (['\n'].intercalate ls)) := by
  obtain ⟨c, cs, hu, -⟩ := h.starts
  by_cases last : ls = []
  · have ne : u ≠ [] := by
      rw [hu]
      exact List.cons_ne_nil c cs
    rw [last, List.intercalate_singleton, Text.lines_of_not_mem h.isLine ne, logicalLines_last h]
    rfl
  · have kept : u.getLast? ≠ some '\r' := fun carriage =>
      h.noReturn (List.mem_of_getLast? carriage)
    rw [List.intercalate_cons_of_ne_nil last, List.append_assoc, List.singleton_append,
      Text.lines_append_newline h.isLine, Text.dropCarriageReturn_of_ne kept, logicalLines_last h]

/-- A unit is read by itself, whether or not the line is broken behind it. The indentation of the
next line is passed over. -/
theorem logicalLines_lines_unit (h : IsUnit u) (visible : Text.isBlank d = false)
    (break? : Option Indent) (cs : List Char) :
    logicalLines pending (Text.lines (u ++ continuation break? ++ d :: cs)) =
      logicalLines (pending ++ u) (Text.lines (d :: cs)) := by
  have feed : d ≠ '\n' := by
    rintro rfl
    cases visible
  have carriage : d ≠ '\r' := by
    rintro rfl
    cases visible
  cases break? with
  | none =>
    obtain ⟨rest, ls, here, whole⟩ := Text.lines_append_cons h.isLine feed carriage cs
    rw [continuation, List.append_nil, here, whole, logicalLines_unit h visible]
  | some indent =>
    have blanks : ∀ c ∈ indent.chars, Text.isBlank c = true := by
      intro c hc
      rcases indent.isIndent c hc with rfl | rfl <;> rfl
    have isLine : '\n' ∉ indent.chars := by
      intro hc
      rcases indent.isIndent _ hc with same | same <;> cases same
    have broken : '\n' ∉ u ++ ['\\'] := by
      simpa using h.isLine
    have kept : (u ++ ['\\']).getLast? ≠ some '\r' := by
      simp
    obtain ⟨rest, ls, here, whole⟩ := Text.lines_append_cons isLine feed carriage cs
    -- The line is broken after the backslash, and the indent belongs to the next one.
    have text : u ++ continuation (some indent) ++ d :: cs =
        (u ++ ['\\']) ++ '\n' :: (indent.chars ++ d :: cs) := by
      simp [continuation]
    rw [text, Text.lines_append_newline broken, Text.dropCarriageReturn_of_ne kept,
      logicalLines_break h, here, whole, logicalLines_indent blanks]

/-- A part starts visibly, wherever it is broken. It is therefore not taken for a remark. -/
theorem exists_intercalate_writeUnits (break? : Nat → Option Indent) (us ls : List (List Char))
    (h : IsUnit u) : ∃ d cs, ['\n'].intercalate (writeUnits break? (u :: us) :: ls) = d :: cs ∧
      Text.isBlank d = false := by
  obtain ⟨d, cs, rfl, visible, -⟩ := h.starts
  obtain ⟨rest, written⟩ : ∃ rest, writeUnits break? ((d :: cs) :: us) = [d] ++ rest := by
    cases us with
    | nil => exact ⟨cs, rfl⟩
    | cons v us => exact ⟨_, rfl⟩
  exact ⟨d, _, by rw [written, Text.intercalate_append_cons]; rfl, visible⟩

/-- The units of a part are a logical line, wherever it is broken. The induction is over the units,
and what was read is pending. -/
theorem logicalLines_writeUnits (break? : Nat → Option Indent) (ne : us ≠ [])
    (units : ∀ u ∈ us, IsUnit u) (ls : List (List Char)) :
    logicalLines pending (Text.lines (['\n'].intercalate (writeUnits break? us :: ls))) =
      (pending ++ us.flatten) :: logicalLines [] (Text.lines (['\n'].intercalate ls)) := by
  -- Each unit becomes pending, whether the line is broken behind it or not; the last one ends it.
  induction us generalizing break? pending with
  | nil => exact absurd rfl ne
  | cons u us ih =>
    obtain ⟨first, others⟩ := List.forall_mem_cons.1 units
    cases us with
    | nil =>
      rw [writeUnits, List.flatten_singleton]
      exact logicalLines_lines_last first ls
    | cons v us =>
      have rest := @ih (pending ++ u) (fun i => break? (i + 1)) (List.cons_ne_nil v us) others
      obtain ⟨d, cs, starts, visible⟩ := exists_intercalate_writeUnits
        (fun i => break? (i + 1)) us ls (others v List.mem_cons_self)
      rw [List.flatten_cons, writeUnits, Text.intercalate_append_cons, starts,
        logicalLines_lines_unit first visible, ← starts, rest, List.append_assoc]
      exact List.cons_ne_nil v us

/-- The logical lines of a file are the units of its entries. The induction is over the entries,
with the spacing of the remaining ones. -/
theorem logicalLines_writeParts (s : Spacing) (entries : List (String × String)) :
    logicalLines [] (Text.lines (['\n'].intercalate (writeParts s entries))) =
      entries.map fun entry => (unitsOf entry).flatten := by
  induction entries generalizing s with
  | nil =>
    have remarks := logicalLines_remarks (s.remarks 0) []
    rwa [List.append_nil] at remarks
  | cons entry entries ih =>
    have ne : unitsOf entry ≠ [] := List.append_ne_nil_of_right_ne_nil _ (List.cons_ne_nil _ _)
    rw [writeParts, logicalLines_remarks,
      logicalLines_writeUnits _ ne fun _ => isUnit_of_mem_unitsOf, ih, List.nil_append,
      List.map_cons]

end Properties

/-! ### A file with scattered entries -/

namespace Sample

/-- Entries with characters that are escaped: one key stands twice, and one value is empty. The keys
and values have blanks, separators and comment marks in them. -/
def labels : List (String × String) :=
  [("a b", " =\\"), ("#!", ""), ("a b", "\t\n:")]

/-- A comment that ends with a backslash, as if it continued. Comments do not continue, and what
follows is read by itself. -/
def brokenComment : Properties.Remark where
  chars := [' ', '!', '\\']
  isLine := by decide
  isPassed := .inr ⟨[' '], '!', ['\\'], rfl, List.all_eq_true.1 rfl, .inr rfl⟩

/-- Every entry is broken behind each of its units, and comments stand everywhere. Each unit then
stands on a line of its own. -/
def scattered : Properties.Spacing where
  remarks _ := [brokenComment]
  break? _ _ := some ⟨[' ', '\t'], by simp⟩

end Sample

namespace Properties

/-! ### Reading back -/

/-- Entries with keys are read back from any file they are written to: in their order, repeated ones
included, wherever the lines are broken and whatever remarks stand between the entries. -/
theorem parse_write (entries : List (String × String)) (named : ∀ entry ∈ entries, entry.1 ≠ "")
    (s : Spacing) : parse (write s entries) = entries := by
  have each : ∀ entry ∈ entries, entry? (unitsOf entry).flatten = some entry :=
    fun entry hentry => entry?_unitsOf (named entry hentry)
  rw [parse, write, String.toList_ofList, logicalLines_writeParts, List.filterMap_map]
  exact (List.filterMap_congr each).trans List.filterMap_some

theorem parse_write_scattered : (∀ entry ∈ Sample.labels, entry.1 ≠ "") ∧
    parse (write Sample.scattered Sample.labels) = Sample.labels :=
  have named : ∀ entry ∈ Sample.labels, entry.1 ≠ "" := by decide
  ⟨named, parse_write Sample.labels named Sample.scattered⟩

end Properties

end StaticWiring
