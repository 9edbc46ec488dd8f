import StaticWiring.Proofs.Lists
import StaticWiring.TypeRef.Parser

/-!
# The grammar of type references

A written type reference is a name, and behind it, between angle brackets, at least one type
argument, separated by commas. A name is a text without angle brackets, commas and white space, and
is not empty. White space may stand in front of and behind each name, behind each type argument, and
behind the whole. A text is written for at most one type reference, and this is the one that is
read; a text that is written for none is refused. What is rendered for a type reference is written
for it, if its names are names.

## Main definitions

* `TypeRef.IsName` — names.
* `TypeRef.Written`, `TypeRef.WrittenList` — what is written for a type reference, and for type
  arguments.
* `TypeRef.HasNames` — all names in a type reference are names.

## Main results

* `TypeRef.Written.readRef_append` — what is written is read, in any open lists.
* `TypeRef.exists_written` — what is read is written.
* `TypeRef.HasNames.written_chars` — what is rendered is written.
* `TypeRef.parse_eq_ok_iff` — a text is read as the type reference that it is written for.
-/

namespace StaticWiring.TypeRef

variable {cs before name after blank rest : List Char} {t result : TypeRef} {ts : List TypeRef}
  {stack : List OpenList}

/-! ### Names and white space -/

/-- A name: it is not empty, and holds no angle bracket, no comma and no white space. White space
around it is no part of it. -/
def IsName (cs : List Char) : Prop :=
  cs ≠ [] ∧ ∀ c ∈ cs, c ≠ '<' ∧ c ≠ '>' ∧ c ≠ ',' ∧ Text.isBlank c = false

/-- The text is white space. It may be empty. -/
def IsBlank (cs : List Char) : Prop :=
  ∀ c ∈ cs, Text.isBlank c = true

theorem isNameChar_iff {c : Char} :
    isNameChar c = true ↔ c ≠ '<' ∧ c ≠ '>' ∧ c ≠ ',' ∧ Text.isBlank c = false := by
  simp [isNameChar, and_assoc]

instance : DecidablePred IsName := fun cs =>
  decidable_of_iff (cs ≠ [] ∧ cs.all isNameChar = true) <| by
    simp only [IsName, List.all_eq_true, isNameChar_iff]

theorem isBlank_nil : IsBlank [] :=
  List.forall_mem_nil _

theorem trimStart_append (h : IsBlank blank) (rest : List Char) :
    Text.trimStart (blank ++ rest) = Text.trimStart rest :=
  List.dropWhile_append_of_pos h

/-- A text is white space followed by what remains without it. The parser leaves it out wherever it
may stand. -/
theorem exists_blank (cs : List Char) : ∃ blank, IsBlank blank ∧ cs = blank ++ Text.trimStart cs :=
  ⟨cs.takeWhile Text.isBlank, fun _ => List.mem_takeWhile_imp,
    List.takeWhile_append_dropWhile.symm⟩

theorem trimStart_trimStart (cs : List Char) :
    Text.trimStart (Text.trimStart cs) = Text.trimStart cs := by
  obtain ⟨blank, h, split⟩ := exists_blank cs
  have trimmed := trimStart_append h (Text.trimStart cs)
  rw [← split] at trimmed
  exact trimmed.symm

theorem trimStart_name (h : IsName name) (rest : List Char) :
    Text.trimStart (name ++ rest) = name ++ rest := by
  obtain ⟨c, cs, rfl⟩ := List.exists_cons_of_ne_nil h.1
  have visible := (h.2 c List.mem_cons_self).2.2.2
  rw [List.cons_append, Text.trimStart, List.dropWhile_cons_of_neg (by simp [visible])]

/-- The text does not go on as a name does. The text may as well have ended. -/
def EndsName (cs : List Char) : Prop :=
  ∀ c ∈ cs.head?, isNameChar c = false

theorem endsName_blank (h : IsBlank blank) (ends : EndsName rest) : EndsName (blank ++ rest) := by
  cases blank with
  | nil => exact ends
  | cons c blank =>
    rintro _ ⟨⟩
    have white := h c List.mem_cons_self
    simp [isNameChar, white]

/-- A name behind white space is found, with what follows it. What follows may not be part of the
name. -/
theorem nameOf_append (leading : IsBlank before) (named : IsName name) (ends : EndsName rest) :
    nameOf (before ++ (name ++ rest)) = name := by
  have all c (member : c ∈ name) : isNameChar c = true := isNameChar_iff.2 (named.2 c member)
  rw [nameOf, trimStart_append leading, trimStart_name named]
  exact Lists.takeWhile_append_of_head all ends

theorem afterName_append (leading : IsBlank before) (named : IsName name) (ends : EndsName rest) :
    afterName (before ++ (name ++ rest)) = Text.trimStart rest := by
  have all c (member : c ∈ name) : isNameChar c = true := isNameChar_iff.2 (named.2 c member)
  rw [afterName, trimStart_append leading, trimStart_name named]
  rw [Lists.dropWhile_append_of_head all ends]

theorem isName_nameOf (found : nameOf cs ≠ []) : IsName (nameOf cs) :=
  ⟨found, fun _ member => isNameChar_iff.1 (List.mem_takeWhile_imp member)⟩

/-- A text is white space, a name, white space again, and what follows the name. The name may be
empty, which the parser refuses. -/
theorem exists_blanks (cs : List Char) :
    ∃ before after, IsBlank before ∧ IsBlank after ∧
      cs = before ++ (nameOf cs ++ (after ++ afterName cs)) := by
  obtain ⟨before, leading, split⟩ := exists_blank cs
  obtain ⟨after, trailing, split'⟩ := exists_blank ((Text.trimStart cs).dropWhile isNameChar)
  refine ⟨before, after, leading, trailing, ?_⟩
  rw [afterName, ← split', nameOf, List.takeWhile_append_dropWhile]
  exact split

/-! ### The grammar -/

mutual

/-- What is written for a type reference, up to the white space behind it. White space behind the
last bracket belongs to what follows. -/
inductive Written : TypeRef → List Char → Prop
  /-- A name. -/
  | raw {before name after : List Char} (leading : IsBlank before) (named : IsName name)
    (trailing : IsBlank after) :
    Written (TypeRef.raw (String.ofList name)) (before ++ (name ++ after))
  /-- A name and type arguments. -/
  | generic {before name after cs : List Char} {arguments : List TypeRef} (leading : IsBlank before)
    (named : IsName name) (trailing : IsBlank after) (list : WrittenList arguments cs) :
    Written ⟨String.ofList name, arguments⟩ (before ++ (name ++ (after ++ '<' :: (cs ++ ['>']))))

/-- What is written for type arguments between angle brackets. There is at least one argument. -/
inductive WrittenList : List TypeRef → List Char → Prop
  /-- A single argument. -/
  | single {argument : TypeRef} {cs after : List Char} (first : Written argument cs)
    (trailing : IsBlank after) : WrittenList [argument] (cs ++ after)
  /-- An argument in front of others. -/
  | cons {argument : TypeRef} {arguments : List TypeRef} {cs after rest : List Char}
    (first : Written argument cs) (trailing : IsBlank after) (others : WrittenList arguments rest) :
    WrittenList (argument :: arguments) (cs ++ (after ++ ',' :: rest))

end

/-! ### The reader step by step -/

theorem readRef_of_open (found : nameOf cs ≠ []) (opened : afterName cs = '<' :: rest)
    (stack : List OpenList) :
    readRef stack cs = readRef (⟨String.ofList (nameOf cs), []⟩ :: stack) rest := by
  rw [readRef, dif_neg found]
  split
  · next h =>
    cases opened.symm.trans h
    rfl
  · next h => exact (h _ opened).elim

theorem readRef_of_raw (found : nameOf cs ≠ []) (plain : ∀ rest, afterName cs ≠ '<' :: rest)
    (stack : List OpenList) :
    readRef stack cs = readBehind (raw (String.ofList (nameOf cs))) stack (afterName cs) := by
  rw [readRef, dif_neg found]
  split
  · next h => exact (plain _ h).elim
  · rfl

theorem readBehind_of_nil (ended : Text.trimStart cs = []) (t : TypeRef) :
    readBehind t [] cs = .ok t := by
  unfold readBehind
  split <;> simp_all

theorem readBehind_of_comma (found : Text.trimStart cs = ',' :: rest) (t : TypeRef)
    (opened : OpenList) (stack : List OpenList) :
    readBehind t (opened :: stack) cs =
      readRef (⟨opened.name, t :: opened.arguments⟩ :: stack) rest := by
  obtain ⟨name, arguments⟩ := opened
  unfold readBehind
  split <;> grind

theorem readBehind_of_close (found : Text.trimStart cs = '>' :: rest) (t : TypeRef)
    (opened : OpenList) (stack : List OpenList) :
    readBehind t (opened :: stack) cs =
      readBehind ⟨opened.name, opened.arguments.reverse ++ [t]⟩ stack rest := by
  obtain ⟨name, arguments⟩ := opened
  conv_lhs => unfold readBehind
  split <;> grind

/-- Behind a complete reference there is nothing but white space. It is where the parser succeeds.
-/
theorem readBehind_nil_eq_ok (read : readBehind t [] cs = .ok result) :
    t = result ∧ Text.trimStart cs = [] := by
  unfold readBehind at read
  split at read <;> simp_all

/-- Behind a type argument there is a comma or the end of the list. No list is left open in the end.
-/
theorem readBehind_cons_eq_ok {opened : OpenList}
    (read : readBehind t (opened :: stack) cs = .ok result) :
    ∃ rest, Text.trimStart cs = ',' :: rest ∨ Text.trimStart cs = '>' :: rest := by
  unfold readBehind at read
  split at read <;> simp_all

/-- White space behind a complete reference is skipped. It is skipped once for all cases. -/
theorem readBehind_trimStart (t : TypeRef) (stack : List OpenList) (cs : List Char) :
    readBehind t stack (Text.trimStart cs) = readBehind t stack cs := by
  have same := trimStart_trimStart cs
  unfold readBehind
  split <;> split <;> grind

theorem readBehind_append (h : IsBlank blank) (t : TypeRef) (stack : List OpenList)
    (rest : List Char) : readBehind t stack (blank ++ rest) = readBehind t stack rest := by
  rw [← readBehind_trimStart, trimStart_append h, readBehind_trimStart]

/-! ### What is written is read -/

/-- The text is blank up to its end, a comma or a closing bracket. It is what stands behind an
argument. -/
def EndsRef (cs : List Char) : Prop :=
  ∀ c ∈ (Text.trimStart cs).head?, c = ',' ∨ c = '>'

theorem EndsRef.append (ends : EndsRef rest) (h : IsBlank blank) : EndsRef (blank ++ rest) := by
  rwa [EndsRef, trimStart_append h]

theorem endsRef_comma (rest : List Char) : EndsRef (',' :: rest) := by
  rintro c ⟨⟩
  exact .inl rfl

theorem endsRef_close (rest : List Char) : EndsRef ('>' :: rest) := by
  rintro c ⟨⟩
  exact .inr rfl

theorem EndsRef.endsName (ends : EndsRef rest) : EndsName rest := by
  obtain ⟨blank, h, split⟩ := exists_blank rest
  rw [split]
  refine endsName_blank h fun c found => ?_
  obtain rfl | rfl := ends c found <;> rfl

/-- A name with an opening bracket behind it opens a list. Its arguments are collected from there
on. -/
theorem readRef_opening (leading : IsBlank before) (named : IsName name) (trailing : IsBlank after)
    (stack : List OpenList) (rest : List Char) :
    readRef stack (before ++ (name ++ (after ++ '<' :: rest))) =
      readRef (⟨String.ofList name, []⟩ :: stack) rest := by
  have bracket : EndsName ('<' :: rest) := by
    rintro c ⟨⟩
    rfl
  have ends := endsName_blank trailing bracket
  have name_eq := nameOf_append leading named ends
  have after_eq := afterName_append leading named ends
  rw [trimStart_append trailing] at after_eq
  have found : nameOf (before ++ (name ++ (after ++ '<' :: rest))) ≠ [] := by
    rw [name_eq]
    exact named.1
  rw [readRef_of_open found after_eq, name_eq]

/-- A name that ends the reference is a reference without arguments. It becomes an argument of the
innermost list. -/
theorem readRef_name (leading : IsBlank before) (named : IsName name) (stack : List OpenList)
    (ends : EndsRef rest) :
    readRef stack (before ++ (name ++ rest)) =
      readBehind (raw (String.ofList name)) stack rest := by
  have name_eq := nameOf_append leading named ends.endsName
  have after_eq := afterName_append leading named ends.endsName
  have found : nameOf (before ++ (name ++ rest)) ≠ [] := by
    rw [name_eq]
    exact named.1
  have plain inner : afterName (before ++ (name ++ rest)) ≠ '<' :: inner := by
    rw [after_eq]
    intro opened
    have stops := ends '<' (by rw [opened]; rfl)
    simp at stops
  rw [readRef_of_raw found plain, name_eq, after_eq, readBehind_trimStart]

mutual

/-- A written reference is read, whatever lists are open. The induction is on what is written, with
its arguments. -/
theorem Written.readRef_append {t : TypeRef} {cs rest : List Char} (written : Written t cs)
    (stack : List OpenList) (ends : EndsRef rest) :
    readRef stack (cs ++ rest) = readBehind t stack rest := by
  cases written with
  | raw leading named trailing =>
    simp only [List.append_assoc]
    rw [readRef_name leading named stack (ends.append trailing), readBehind_append trailing]
  | generic leading named trailing list =>
    simp only [List.append_assoc, List.cons_append, List.nil_append]
    rw [readRef_opening leading named trailing, WrittenList.readRef_append list]
    rfl

/-- Written type arguments are read into the list that is open. The bracket closes the list and
completes the reference. -/
theorem WrittenList.readRef_append {ts : List TypeRef} {cs : List Char}
    (written : WrittenList ts cs) (opened : OpenList) (stack : List OpenList) (rest : List Char) :
    readRef (opened :: stack) (cs ++ '>' :: rest) =
      readBehind ⟨opened.name, opened.arguments.reverse ++ ts⟩ stack rest := by
  cases written with
  | @single argument cs after first trailing =>
    have ends := (endsRef_close rest).append trailing
    have closed := trimStart_append trailing ('>' :: rest)
    rw [List.append_assoc, Written.readRef_append first _ ends, readBehind_of_close closed]
  | @cons argument arguments cs after others first trailing tail =>
    have ends := (endsRef_comma (others ++ '>' :: rest)).append trailing
    have comma := trimStart_append trailing (',' :: (others ++ '>' :: rest))
    simp only [List.append_assoc, List.cons_append]
    rw [Written.readRef_append first _ ends, readBehind_of_comma comma,
      WrittenList.readRef_append tail]
    simp only [List.reverse_cons, List.append_assoc, List.singleton_append]

end

/-! ### What is read is written -/

-- The texts become shorter, except that a list starts with its first argument on the same text.
mutual

/-- What is read is a written reference and what follows it. It is the converse, by induction along
the parser. -/
theorem exists_written {stack : List OpenList} {cs : List Char}
    (read : readRef stack cs = .ok result) :
    ∃ t used rest, cs = used ++ rest ∧ Written t used ∧ readBehind t stack rest = .ok result := by
  have found : nameOf cs ≠ [] := by
    intro missing
    rw [readRef, dif_pos missing] at read
    cases read
  obtain ⟨before, after, leading, trailing, split⟩ := exists_blanks cs
  have named := isName_nameOf found
  by_cases open' : ∃ inner, afterName cs = '<' :: inner
  · obtain ⟨inner, opened⟩ := open'
    have shorter : inner.length < cs.length := by
      have := length_afterName_lt found
      rw [opened, List.length_cons] at this
      omega
    rw [readRef_of_open found opened] at read
    obtain ⟨ts, list, rest, inner_eq, written, behind⟩ := exists_writtenList read
    refine ⟨_, _, rest, ?_, .generic leading named trailing written, behind⟩
    rw [opened, inner_eq] at split
    simpa using split
  · rw [readRef_of_raw found fun inner opened => open' ⟨inner, opened⟩] at read
    refine ⟨_, _, afterName cs, ?_, .raw leading named trailing, read⟩
    simpa using split
termination_by (cs.length, 0)

/-- What is read in an open list is written type arguments, a bracket and what follows it. Several
arguments may have been read before. -/
theorem exists_writtenList {opened : OpenList} {stack : List OpenList} {cs : List Char}
    (read : readRef (opened :: stack) cs = .ok result) :
    ∃ ts list rest, cs = list ++ '>' :: rest ∧ WrittenList ts list ∧
      readBehind ⟨opened.name, opened.arguments.reverse ++ ts⟩ stack rest = .ok result := by
  obtain ⟨t, used, rest, rfl, first, behind⟩ := exists_written read
  obtain ⟨after, trailing, split⟩ := exists_blank rest
  obtain ⟨rest', comma | closed⟩ := readBehind_cons_eq_ok behind
  · rw [comma] at split
    rw [readBehind_of_comma comma] at behind
    have shorter : rest'.length < (used ++ rest).length := by
      have := congrArg List.length split
      simp only [List.length_append, List.length_cons] at this ⊢
      omega
    obtain ⟨ts, list, rest'', rfl, others, behind⟩ := exists_writtenList behind
    refine ⟨_, _, rest'', ?_, .cons first trailing others, ?_⟩
    · simp [split]
    · simpa using behind
  · rw [closed] at split
    rw [readBehind_of_close closed] at behind
    refine ⟨_, _, rest', ?_, .single first trailing, behind⟩
    simp [split]
termination_by (cs.length, 1)

end

/-! ### What is rendered is written -/

/-- All names in a type reference are names. Parsed references are of this form, but others can be
built. -/
inductive HasNames : TypeRef → Prop
  /-- The name of the reference is one, and the names in its arguments are. -/
  | mk {name : String} {arguments : List TypeRef} (named : IsName name.toList)
    (all : ∀ argument ∈ arguments, HasNames argument) : HasNames ⟨name, arguments⟩

theorem hasNames_iff {name : String} {arguments : List TypeRef} :
    HasNames ⟨name, arguments⟩ ↔
      IsName name.toList ∧ ∀ argument ∈ arguments, HasNames argument :=
  ⟨fun ⟨named, all⟩ => ⟨named, all⟩, fun ⟨named, all⟩ => ⟨named, all⟩⟩

/-- White space may be added in front of what is written. It is the only place where the form leaves
a choice at the start. -/
theorem Written.append (written : Written t cs) (h : IsBlank blank) : Written t (blank ++ cs) := by
  cases written with
  | raw leading named trailing =>
    rw [← List.append_assoc]
    exact .raw (List.forall_mem_append.2 ⟨h, leading⟩) named trailing
  | generic leading named trailing list =>
    rw [← List.append_assoc]
    exact .generic (List.forall_mem_append.2 ⟨h, leading⟩) named trailing list

theorem WrittenList.append (written : WrittenList ts cs) (h : IsBlank blank) :
    WrittenList ts (blank ++ cs) := by
  cases written with
  | single first trailing =>
    rw [← List.append_assoc]
    exact .single (first.append h) trailing
  | cons first trailing others =>
    rw [← List.append_assoc]
    exact .cons (first.append h) trailing others

theorem writtenList_charsOfAll (all : ∀ t ∈ ts, Written t t.chars) (given : ts ≠ []) :
    WrittenList ts (charsOfAll ts) := by
  induction ts with
  | nil => exact (given rfl).elim
  | cons t ts ih =>
    obtain ⟨first, others⟩ := List.forall_mem_cons.1 all
    cases ts with
    | nil => simpa [charsOfAll] using WrittenList.single first isBlank_nil
    | cons t' ts =>
      have space : IsBlank [' '] := List.forall_mem_singleton.2 rfl
      have tail := (ih others (List.cons_ne_nil _ _)).append space
      simpa [charsOfAll] using WrittenList.cons first isBlank_nil tail

theorem HasNames.written_chars (names : HasNames t) : Written t t.chars := by
  induction names with
  | @mk name arguments named _ ih =>
    cases arguments with
    | nil => simpa [chars, TypeRef.raw] using Written.raw isBlank_nil named isBlank_nil
    | cons argument arguments =>
      have list := writtenList_charsOfAll ih (List.cons_ne_nil _ _)
      simpa [chars] using Written.generic isBlank_nil named isBlank_nil list

mutual

/-- Names are written for a reference. The parser can therefore return no other references. -/
theorem Written.hasNames {t : TypeRef} {cs : List Char} (written : Written t cs) :
    HasNames t := by
  cases written with
  | raw leading named trailing => exact ⟨by rwa [String.toList_ofList], List.forall_mem_nil _⟩
  | generic leading named trailing list =>
    exact ⟨by rwa [String.toList_ofList], WrittenList.hasNames list⟩

theorem WrittenList.hasNames {ts : List TypeRef} {cs : List Char} (written : WrittenList ts cs) :
    ∀ t ∈ ts, HasNames t := by
  cases written with
  | single first trailing => exact List.forall_mem_singleton.2 (Written.hasNames first)
  | cons first trailing others =>
    exact List.forall_mem_cons.2 ⟨Written.hasNames first, WrittenList.hasNames others⟩

end

/-! ### Texts -/

theorem parse_eq_ok_iff_readRef {text : String} :
    parse text = .ok t ↔ readRef [] text.toList = .ok t := by
  rw [parse]
  cases readRef [] text.toList <;> simp [Except.mapError]

theorem parse_eq_ok_iff_written {text : String} :
    parse text = .ok t ↔ ∃ cs blank, text.toList = cs ++ blank ∧ Written t cs ∧ IsBlank blank := by
  rw [parse_eq_ok_iff_readRef]
  constructor
  · intro read
    obtain ⟨t', cs, blank, split, written, behind⟩ := exists_written read
    obtain ⟨rfl, ended⟩ := readBehind_nil_eq_ok behind
    exact ⟨cs, blank, split, written, List.dropWhile_eq_nil_iff.1 ended⟩
  · rintro ⟨cs, blank, split, written, white⟩
    have ended : Text.trimStart blank = [] := List.dropWhile_eq_nil_iff.2 white
    have ends : EndsRef blank := by
      rw [EndsRef, ended]
      exact fun _ absent => nomatch absent
    rw [split, written.readRef_append [] ends, readBehind_of_nil ended]

/-- What is rendered for a reference is read as the reference, if its names are names. One space
stands behind each comma in what is rendered. -/
theorem HasNames.parse_render (names : HasNames t) : parse t.render = .ok t :=
  parse_eq_ok_iff_written.2
    ⟨t.chars, [], by simp [render], names.written_chars, isBlank_nil⟩

/-- A text is read as the type reference that it is written for, up to white space at its end. What
is rendered for a reference whose names are names is read as the reference. So whatever is read can
be rendered and read again. -/
theorem parse_eq_ok_iff :
    (∀ text t, parse text = .ok t ↔
      ∃ cs blank, text.toList = cs ++ blank ∧ Written t cs ∧ IsBlank blank) ∧
    (∀ t, HasNames t → parse t.render = .ok t) ∧
    ∀ text t, parse text = .ok t → parse t.render = .ok t := by
  refine ⟨fun text t => parse_eq_ok_iff_written, fun t => HasNames.parse_render, ?_⟩
  intro text t read
  obtain ⟨cs, blank, -, written, -⟩ := parse_eq_ok_iff_written.1 read
  exact written.hasNames.parse_render

/-- A map from texts to lists of numbers. It has arguments at two depths. -/
def Sample.nestedRef : TypeRef :=
  ⟨"java.util.Map", [raw "java.lang.String", ⟨"java.util.List", [raw "java.lang.Long"]⟩]⟩

theorem Sample.hasNames_nestedRef : nestedRef.HasNames := by
  simp only [nestedRef, raw, hasNames_iff, List.forall_mem_cons, List.not_mem_nil, false_imp_iff,
    implies_true, and_true]
  exact ⟨by decide, by decide, by decide, by decide⟩

theorem parse_eq_ok_iff_nestedRef :
    Sample.nestedRef.HasNames ∧ parse Sample.nestedRef.render = .ok Sample.nestedRef :=
  ⟨Sample.hasNames_nestedRef, parse_eq_ok_iff.2.1 _ Sample.hasNames_nestedRef⟩

end StaticWiring.TypeRef
