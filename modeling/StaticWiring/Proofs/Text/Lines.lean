import StaticWiring.Text.Cut

/-!
# Pieces and lines of joined texts

A text that is put together from parts has the pieces of the parts, except that the pieces where two
parts meet are joined. The same holds of its lines, where the end of a line may take a carriage
return with it.

## Main results

* `Text.splitOn_append_cons`, `Text.splitOn_append_of_not_mem` — the pieces of two parts, with and
  without a separator between them.
* `Text.splitOn_intercalate` — pieces are read back.
* `Text.lines_append_newline` — the first line ends at the first line feed.
* `Text.lines_append_cons` — what precedes a line on the same line.
-/

namespace StaticWiring.Text

variable {cs ds : List Char} {d sep : Char}

/-! ### Pieces -/

/-- The pieces of a text are those before a separator and those behind it. They may be empty, and so
may be the text. -/
theorem splitOn_append_cons {isSeparator : Char → Bool} (separates : isSeparator sep = true)
    (cs ds : List Char) :
    splitOn isSeparator (cs ++ sep :: ds) = splitOn isSeparator cs ++ splitOn isSeparator ds := by
  induction cs with
  | nil => simp [splitOn, separates]
  | cons c cs ih =>
    obtain ⟨piece, pieces, first⟩ := List.exists_cons_of_ne_nil (splitOn_ne_nil isSeparator cs)
    rw [first, List.cons_append] at ih
    simp only [List.cons_append, splitOn, ih, first]
    split <;> rfl

/-- Pieces joined by a separator, with further ones behind them. One separator stands between the
two. -/
theorem intercalate_append {sep : List Char} {pieces others : List (List Char)}
    (ne : pieces ≠ []) (ne' : others ≠ []) :
    sep.intercalate (pieces ++ others) =
      sep.intercalate pieces ++ sep ++ sep.intercalate others := by
  induction pieces with
  | nil => exact absurd rfl ne
  | cons piece pieces ih =>
    by_cases last : pieces = []
    · rw [last, List.singleton_append, List.intercalate_cons_of_ne_nil ne',
        List.intercalate_singleton]
    · have more : pieces ++ others ≠ [] := List.append_ne_nil_of_left_ne_nil last others
      rw [List.cons_append, List.intercalate_cons_of_ne_nil more, ih last,
        List.intercalate_cons_of_ne_nil last]
      simp only [List.append_assoc]

/-- What precedes the first piece belongs to it. Only the first piece can change. -/
theorem intercalate_append_cons (sep cs ds : List Char) (pieces : List (List Char)) :
    sep.intercalate ((cs ++ ds) :: pieces) = cs ++ sep.intercalate (ds :: pieces) := by
  cases pieces <;> simp [List.intercalate]

/-- What precedes a text without a separator belongs to its first piece. No piece ends before the
first separator. -/
theorem splitOn_append_of_not_mem (h : sep ∉ cs) (ds : List Char) :
    ∃ first others, splitOn (· == sep) ds = first :: others ∧
      splitOn (· == sep) (cs ++ ds) = (cs ++ first) :: others := by
  obtain ⟨first, others, hds⟩ := List.exists_cons_of_ne_nil (splitOn_ne_nil (· == sep) ds)
  refine ⟨first, others, hds, ?_⟩
  induction cs with
  | nil => exact hds
  | cons c cs ih =>
    rw [List.mem_cons, not_or] at h
    have other : (c == sep) = false := beq_eq_false_iff_ne.2 (Ne.symm h.1)
    simp [splitOn, other, ih h.2]

theorem splitOn_of_not_mem (h : sep ∉ cs) : splitOn (· == sep) cs = [cs] := by
  obtain ⟨first, others, hnil, whole⟩ := splitOn_append_of_not_mem h []
  obtain ⟨rfl, rfl⟩ := List.cons.inj (hnil.symm.trans (rfl : _ = [[]]))
  rwa [List.append_nil] at whole

/-- Pieces without separators are read back once they are joined. Empty pieces are kept, but at
least one is needed. -/
theorem splitOn_intercalate {pieces : List (List Char)} (ne : pieces ≠ [])
    (plain : ∀ piece ∈ pieces, sep ∉ piece) :
    splitOn (· == sep) ([sep].intercalate pieces) = pieces := by
  induction pieces with
  | nil => exact absurd rfl ne
  | cons piece pieces ih =>
    have first := splitOn_of_not_mem (plain piece List.mem_cons_self)
    by_cases last : pieces = []
    · rw [last, List.intercalate_singleton, first]
    · have others := ih last fun other member => plain other (List.mem_cons_of_mem _ member)
      have cut := @splitOn_append_cons sep (· == sep) (beq_self_eq_true sep) piece
      rw [List.intercalate_cons_of_ne_nil last, List.append_assoc, List.singleton_append, cut,
        first, others, List.singleton_append]

/-! ### Lines -/

theorem dropCarriageReturn_of_ne (h : cs.getLast? ≠ some '\r') : dropCarriageReturn cs = cs :=
  if_neg h

theorem dropCarriageReturn_append (cs : List Char) (ne : ds ≠ []) :
    dropCarriageReturn (cs ++ ds) = cs ++ dropCarriageReturn ds := by
  have last : (cs ++ ds).getLast? = ds.getLast? := by
    rw [List.getLast?_append, List.getLast?_eq_some_getLast ne, Option.some_or]
  rw [dropCarriageReturn, dropCarriageReturn, last, List.dropLast_append_of_ne_nil ne]
  split <;> rfl

/-- The first character stays if it is no carriage return. Only the last one is dropped, and no
other character. -/
theorem exists_dropCarriageReturn_cons (carriage : d ≠ '\r') (ds : List Char) :
    ∃ rest, dropCarriageReturn (d :: ds) = d :: rest := by
  by_cases none : ds = []
  · exact ⟨[], by rw [none, dropCarriageReturn_of_ne (by simpa using carriage)]⟩
  · exact ⟨_, dropCarriageReturn_append [d] none⟩

/-- A text without line feeds is a single line, if it is not empty. The empty text has no line at
all. -/
theorem lines_of_not_mem (h : '\n' ∉ cs) (ne : cs ≠ []) : lines cs = [cs] := by
  rw [lines, splitOn_of_not_mem h, linesOfPieces, if_neg (by simpa using ne)]

/-- The first line ends at the first line feed. A carriage return in front of it is no part of the
line. -/
theorem lines_append_newline (h : '\n' ∉ cs) (ds : List Char) :
    lines (cs ++ '\n' :: ds) = dropCarriageReturn cs :: lines ds := by
  obtain ⟨first, others, hds⟩ := List.exists_cons_of_ne_nil (splitOn_ne_nil (· == '\n') ds)
  rw [lines, lines, splitOn_append_cons (by decide), splitOn_of_not_mem h, hds]
  rfl

/-- What precedes a line that is not empty belongs to it. A line that is empty might have been none.
-/
theorem lines_append_cons (h : '\n' ∉ cs) (feed : d ≠ '\n') (carriage : d ≠ '\r')
    (ds : List Char) :
    ∃ rest ls, lines (d :: ds) = (d :: rest) :: ls ∧
      lines (cs ++ d :: ds) = (cs ++ d :: rest) :: ls := by
  obtain ⟨first, others, hds⟩ := List.exists_cons_of_ne_nil (splitOn_ne_nil (· == '\n') ds)
  have here : splitOn (· == '\n') (d :: ds) = (d :: first) :: others := by
    simp [splitOn, feed, hds]
  obtain ⟨first', others', hfirst', whole⟩ := splitOn_append_of_not_mem h (d :: ds)
  obtain ⟨rfl, rfl⟩ := List.cons.inj (here.symm.trans hfirst')
  rw [lines, lines, here, whole]
  cases others with
  | nil => exact ⟨first, [], by simp [linesOfPieces], by simp [linesOfPieces]⟩
  | cons next others =>
    obtain ⟨rest, starts⟩ := exists_dropCarriageReturn_cons carriage first
    refine ⟨rest, linesOfPieces (next :: others), ?_, ?_⟩
    · rw [linesOfPieces, starts]
      exact List.cons_ne_nil _ _
    · rw [linesOfPieces, dropCarriageReturn_append _ (List.cons_ne_nil _ _), starts]
      exact List.cons_ne_nil _ _

end StaticWiring.Text
