import StaticWiring.Proofs.Regex.Front
import StaticWiring.Proofs.Regex.LastSymbol
import StaticWiring.Proofs.Regex.Parts

/-!
# Expressions between the ends of the text

A text that starts with circumflexes and ends with a dot and a star is also read without the
circumflexes, in a group between the start and the end of the text. If both readings succeed, the
one in the group matches somewhere exactly where the one by itself matches the whole text.

## Main definitions

* `Regex.read?` — the expression of a text, however deep and large it is.
* `Regex.anchoredText` — a text in a group between the start and the end.

## Main results

* `Regex.isMatch_anchored` — an expression between the ends of the text matches where the expression
  matches the whole text.
* `Regex.isMatch_of_read?_anchoredText` — what is read in the group matches where what is read by
  itself matches the whole text.
-/

namespace StaticWiring.Regex

variable {text : List Char} {starts : Nat}

/-- The expression of a text, however deep and large it is. The limits only refuse texts, and never
change what is read. -/
def read? (text : List Char) : Option Regex :=
  (symbols? text >>= ofSymbols?).map (·.regex)

/-- What is read within the limits is read without them. Whatever is shown of the unlimited reader
therefore holds of the engine. -/
theorem read?_of_parse?_eq_some {r : Regex} (h : parse? text = some r) : read? text = some r := by
  obtain ⟨nested, found, limited⟩ := Option.bind_eq_some_iff.1 h
  split at limited
  · exact Option.map_eq_some_iff.2 ⟨nested, found, Option.some.inj limited⟩
  · cases limited

/-- A text in a group between the start and the end. It is the form in which broad patterns are
read. -/
def anchoredText (text : List Char) : List Char :=
  "^(?:".toList ++ text ++ ")$".toList

/-! ### Sequences and choices -/

theorem Nested.reach_sequence (items : List Nested) (h : starts < 2 ^ (text.length + 1)) :
    (sequence items).regex.reach text starts = through text (items.map regex) starts := by
  unfold sequence
  split
  · rfl
  · exact reach_empty h
  · exact Regex.reach_sequence _ h

theorem Nested.endsRepeated_concat (items : List Nested) {item : Nested} {few : Bool} {r : Regex}
    {most : Option Nat} (last : item.regex = repetition few r 0 most) :
    (sequence (items ++ [item])).regex.EndsRepeated := by
  cases items with
  | nil =>
    rw [List.nil_append, sequence, last]
    exact .single few r 0 most
  | cons first items =>
    have several : (sequence (first :: items ++ [item])).regex =
        Regex.sequence ((first :: items).map regex ++ [repetition few r 0 most]) := by
      rw [← last]
      cases items <;> simp [sequence]
    rw [several]
    exact endsRepeated_sequence _ few r 0 most

theorem Nested.reach_anyOf {items : List Nested} {item : Nested} (member : item ∈ items)
    (repeats : item.regex.EndsRepeated) (h : starts < 2 ^ (text.length + 1)) :
    (anyOf items).regex.reach text starts = among text (items.map regex) starts := by
  unfold anyOf
  split
  · exact (Nat.or_zero _).symm
  · exact reach_ofAlternatives (List.mem_map_of_mem member) repeats h

/-- Any number of repetitions is a repetition, also of what matches nothing but the empty text.
Without a bound, the number of repetitions may end up bounded by one. -/
theorem exists_repeated (few : Bool) (r : Regex) :
    ∃ most, repeated few r 0 none = repetition few r 0 most := by
  cases marker : r.isMarker with
  | false => exact ⟨none, by simp [repeated, marker]⟩
  | true => exact ⟨some 1, by simp [repeated, marker]⟩

/-! ### Between the ends -/

/-- From all positions, the start of the text leads to the first one. Nothing else can be matched in
front of it. -/
theorem reach_startText_all :
    (anchor .startText).reach text (Subject.ofText text).all = 1 := by
  rw [reach_startText, Nat.and_comm]
  exact Subject.and_all (start_lt text)

theorem isMatch_anchored (r : Regex) (text : String) :
    (sequence [anchor .startText, r, anchor .endText]).isMatch text = r.matchesWhole text := by
  have all : (Subject.ofText text.toList).all < 2 ^ (text.toList.length + 1) :=
    positionsWhere_lt _ _ _
  change (reach text.toList _ _ != 0) = _
  rw [reach_sequence _ all, through_cons, reach_startText_all, through_cons, through_cons,
    reach_endText, matchesWhole, Nat.and_two_pow]
  cases (r.reach text.toList 1).testBit text.toList.length <;> simp [through]

/-- Further items in front of a group that ends with a repetition make no difference if they stay at
the start of the text. -/
theorem Group.WithFront.reach_content {front : List Nested} {g g' : Group}
    (h : g.WithFront front g') {item : Nested} {items : List Nested} {few : Bool} {r : Regex}
    {most : Option Nat} (last : g.items = item :: items)
    (repeats : item.regex = repetition few r 0 most)
    (stays : through text (front.map Nested.regex) 1 = 1) :
    g'.content.regex.reach text 1 = g.content.regex.reach text 1 := by
  have start := start_lt text
  have behind (items : List Nested) :
      (Nested.sequence (front ++ items)).regex.reach text 1 =
        (Nested.sequence items).regex.reach text 1 := by
    rw [Nested.reach_sequence _ start, Nested.reach_sequence _ start, List.map_append,
      through_append, stays]
  have own : (Nested.sequence g.items.reverse).regex.EndsRepeated := by
    rw [last, List.reverse_cons]
    exact Nested.endsRepeated_concat _ repeats
  unfold Group.content
  rw [Nested.reach_anyOf (List.mem_reverse.2 List.mem_cons_self) own start]
  -- The front belongs to the only alternative here, and to the first one below.
  cases h with
  | items single =>
    have further : (Nested.sequence (g.items ++ front.reverse).reverse).regex.EndsRepeated := by
      rw [last, List.reverse_append, List.reverse_reverse, List.reverse_cons, ← List.append_assoc]
      exact Nested.endsRepeated_concat _ repeats
    rw [Nested.reach_anyOf (List.mem_reverse.2 List.mem_cons_self) further start]
    simp [single, among_cons, behind]
  | alternative others first several =>
    rw [Nested.reach_anyOf (List.mem_reverse.2 List.mem_cons_self) own start]
    simp [several, among_cons, behind]

/-! ### The star at the end -/

theorem Group.exists_of_repeatLast? {g next : Group} {few : Bool}
    (h : g.repeatLast? 0 none few = some next) :
    ∃ item items fewFirst r most, next.items = item :: items ∧
      item.regex = repetition fewFirst r 0 most := by
  unfold repeatLast? at h
  split at h
  · next item items _ =>
    split at h
    · cases h
    · cases h
      obtain ⟨most, repeats⟩ := exists_repeated (few != g.settings.has .preferLeast) item.regex
      exact ⟨_, items, _, item.regex, most, rfl, repeats⟩
  · cases h

theorem Group.reach_close (g : Group) :
    g.close.regex.reach text starts = g.content.regex.reach text starts := by
  unfold close
  split
  · exact reach_group _ _
  · rfl

/-- The start of the text as an item. It is what a circumflex is read as. -/
def Nested.start : Nested where
  regex := .anchor .startText

/-- The start of the text leads from itself to itself, however often. Several circumflexes are thus
as good as one. -/
theorem through_starts (k : Nat) :
    through text ((List.replicate k Nested.start).map Nested.regex) 1 = 1 := by
  induction k with
  | zero => rfl
  | succ k ih =>
    have start : (anchor .startText).reach text 1 = 1 := reach_startText
    rw [List.replicate_succ, List.map_cons, through_cons, Nested.start, start]
    exact ih

/-- Behind the star at the end, the group inside matches where the one outside matches the whole
text. -/
theorem Inside.isMatch_eq {front : List Nested} {outer outer' : List Group} {g g' : Group}
    {names : List String} {kept : Nat} {few : Bool} {nested nested' : Nested} {text : String}
    (h : Inside front { items := [Nested.start] } outer g outer' g')
    (stays : through text.toList (front.map Nested.regex) 1 = 1)
    (found : readSymbols? outer names kept g [.count 0 none few, .closeGroup, .dollar] =
      some nested)
    (found' : readSymbols? outer' names kept g' [.count 0 none few] = some nested') :
    nested.regex.isMatch text = nested'.regex.matchesWhole text := by
  simp only [readSymbols?] at found found'
  split at found'
  · next next' repeated' =>
    split at found'
    · next all =>
      cases h with
      | inner above _ h => simp at all
      | outermost h =>
        cases found'
        split at found
        · next next repeated =>
          obtain ⟨_, same, h⟩ := h.read? repeated
          obtain rfl := Option.some.inj (same.symm.trans repeated')
          obtain ⟨_, _, _, _, _, last, star⟩ := Group.exists_of_repeatLast? repeated
          obtain rfl := Option.some.inj found
          change (sequence [anchor .startText, next.close.regex, anchor .endText]).isMatch text = _
          rw [isMatch_anchored, matchesWhole, matchesWhole, Group.reach_close,
            h.reach_content last star stays]
        · cases found
    · cases found'
  · cases found'

/-! ### Circumflexes -/

theorem readSymbols?_carets {outer : List Group} {names : List String} {kept : Nat}
    (items : List Nested) (symbols : List Symbol) (k : Nat) :
    readSymbols? outer names kept { items } (List.replicate k .caret ++ symbols) =
      readSymbols? outer names kept { items := List.replicate k Nested.start ++ items }
        symbols := by
  induction k generalizing items with
  | zero => rfl
  | succ k ih =>
    rw [List.replicate_succ, List.replicate_succ', List.append_assoc]
    exact ih (Nested.start :: items)

theorem scanSymbols?_carets (steps : Nat) (text : List Char) (k : Nat) :
    scanSymbols? (k + steps) false [] (List.replicate k '^' ++ text) =
      (scanSymbols? steps false [] text).map (List.replicate k .caret ++ ·) := by
  induction k with
  | zero => simp
  | succ k ih =>
    have front : skipSpace false (List.replicate (k + 1) '^' ++ text) =
        '^' :: (List.replicate k '^' ++ text) := rfl
    rw [Nat.succ_add, scanSymbols?_of_eq_cons (k + steps) [] front]
    simp only [scanSymbol?, Option.bind_some, scopesAfter, ih, Option.map_map]
    rfl

theorem symbols?_carets (text : List Char) (k : Nat) :
    symbols? (List.replicate k '^' ++ text) =
      (scanSymbols? text.length false [] text).map (List.replicate k .caret ++ ·) := by
  rw [symbols?, List.length_append, List.length_replicate, scanSymbols?_carets]

theorem symbols?_anchoredText (text : List Char) :
    symbols? (anchoredText text) =
      (scanSymbols? (text.length + 4) false [false] (text ++ closing)).map
        (.caret :: .openScope [] :: ·) := by
  have front : skipSpace false (anchoredText text) =
      '^' :: '(' :: '?' :: ':' :: (text ++ closing) := rfl
  have group : skipSpace false ('(' :: '?' :: ':' :: (text ++ closing)) =
      '(' :: '?' :: ':' :: (text ++ closing) := rfl
  have long : (anchoredText text).length = text.length + 5 + 1 := by
    simp [anchoredText]
  have scope : scanGroup? false ('?' :: ':' :: (text ++ closing)) =
      some (.openScope [], text ++ closing) := rfl
  rw [symbols?, long, scanSymbols?_of_eq_cons _ _ front]
  simp only [scanSymbol?, Option.bind_some, scopesAfter]
  rw [scanSymbols?_of_eq_cons _ _ group]
  simp only [scanSymbol?, scope, Option.bind_some, scopesAfter, Option.map_map]
  rfl

/-! ### The text in a group -/

/-- The symbols of a text in a group are its own between those of the group, where the text is
scanned as well as where its symbols are read. -/
theorem symbols?_anchoredText_of_read {text : List Char} {symbols : List Symbol} {g : Group}
    {nested nested' : Nested} (scanned : scanSymbols? text.length false [] text = some symbols)
    (read : readSymbols? [] [] 0 g symbols = some nested)
    (found : (symbols? (anchoredText text) >>= ofSymbols?) = some nested') :
    scanSymbols? (text.length + 4) false [false] (text ++ closing) =
        some (symbols ++ [.closeGroup, .dollar]) ∧
      readSymbols? [{ items := [Nested.start] }] [] 0 {} (symbols ++ [.closeGroup, .dollar]) =
        some nested' := by
  have balanced := openAfter_of_readSymbols? read
  rw [symbols?_anchoredText] at found
  have enough : text.length + 2 ≤ text.length + 4 := Nat.add_le_add_left (by decide) _
  obtain closed | lost := scanSymbols?_of_closes false enough (.closed text) scanned balanced
  · rw [List.nil_append] at closed
    rw [closed] at found
    exact ⟨closed, found⟩
  · -- A group that is never closed is refused.
    rw [List.nil_append] at lost
    rw [lost] at found
    change readSymbols? [{ items := [Nested.start] }] [] 0 {} symbols = some nested' at found
    have missing := openAfter_of_readSymbols? found
    cases missing.symm.trans (openAfter_succ balanced)

/-- A text that ends with a dot and a star is read in a group between the start and the end, without
the circumflexes in front of it. What is read there matches where what is read of the text itself
matches the whole text. -/
theorem isMatch_of_read?_anchoredText {pattern : List Char} {k : Nat} {r r' : Regex}
    (ends : ['.', '*'] <:+ pattern) (whole : read? (List.replicate k '^' ++ pattern) = some r')
    (found : read? (anchoredText pattern) = some r) (text : String) :
    r.isMatch text = r'.matchesWhole text := by
  obtain ⟨nested', alone, rfl⟩ := Option.map_eq_some_iff.1 whole
  obtain ⟨nested, inGroup, rfl⟩ := Option.map_eq_some_iff.1 found
  rw [symbols?_carets] at alone
  obtain ⟨_, carets, alone⟩ := Option.bind_eq_some_iff.1 alone
  obtain ⟨symbols, scanned, rfl⟩ := Option.map_eq_some_iff.1 carets
  rw [ofSymbols?, readSymbols?_carets, List.append_nil] at alone
  obtain ⟨closed, inGroup⟩ := symbols?_anchoredText_of_read scanned alone inGroup
  have shorter : pattern.length + 2 ≤ pattern.length + 4 := Nat.add_le_add_left (by decide) _
  have left : EndsDotStar pattern := by
    obtain ⟨front, rfl⟩ := ends
    exact ⟨by simp, front, List.suffix_rfl⟩
  obtain ⟨init, few, rfl⟩ := exists_eq_concat_of_endsDotStar false shorter left scanned
    (openAfter_of_readSymbols? alone) closed
  rw [List.append_assoc] at inGroup
  have front : Group.WithFront (List.replicate k Nested.start) {}
      { items := [] ++ (List.replicate k Nested.start).reverse } := .items {} rfl
  rw [List.nil_append, List.reverse_replicate] at front
  -- Up to the star both sides read the same symbols.
  obtain ⟨_, _, _, _, _, _, inside, left, right⟩ := (Inside.outermost front).read inGroup alone
  exact inside.isMatch_eq (through_starts k) left right

end StaticWiring.Regex
