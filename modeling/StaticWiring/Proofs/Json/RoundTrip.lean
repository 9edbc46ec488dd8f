import StaticWiring.Json.Reader
import StaticWiring.Proofs.Json.Token
import StaticWiring.Proofs.Lists

/-!
# Reading what is written

A value that is written in one line or over many lines is read back as the same value. Its text is
scanned to its tokens first, whatever the indentation is, and then the tokens are put together to
the value again. Integers, strings and truth values are read back whatever they are, a number with a
fraction or an exponent if it is written as one.

## Main definitions

* `Json.HasNumerals` — the fractions of a value are written as numbers.
* `Json.tokens` — the tokens of a value.
* `Json.Scans` — a text is scanned to tokens, whatever follows.

## Main results

* `Json.scans_compactChars`, `Json.scans_prettyChars` — a text of a value is scanned to its tokens.
* `Json.Reading.run_tokens` — the tokens of a value are put together to the value.
* `Json.read?_compact`, `Json.read?_pretty` — a value that is written is read back.
-/

namespace StaticWiring.Json

open Token

/-- The number with a fraction or an exponent, or the negative zero, that is written like this. Such
numbers are kept as they were written, since they are not computed with. -/
def IsFraction (lexeme : String) : Prop :=
  isNumeral lexeme.toList = true ∧ (∀ c ∈ lexeme.toList, isNumeralChar c = true) ∧
    numeralValue lexeme.toList = .fraction lexeme

/-- The fractions of the value are written as numbers. Only fractions carry a text that may be
wrong. -/
inductive HasNumerals : Json → Prop where
  | null : HasNumerals .null
  | bool (value : Bool) : HasNumerals (.bool value)
  | number (value : Int) : HasNumerals (.number value)
  | fraction {lexeme : String} (h : IsFraction lexeme) : HasNumerals (.fraction lexeme)
  | string (value : String) : HasNumerals (.string value)
  | illFormed : HasNumerals .illFormed
  | array {items : List Json} (h : ∀ item ∈ items, HasNumerals item) : HasNumerals (.array items)
  | object {members : List (String × Json)} (h : ∀ member ∈ members, HasNumerals member.2) :
    HasNumerals (.object members)

theorem hasNumerals_array_iff {items : List Json} :
    (array items).HasNumerals ↔ ∀ item ∈ items, item.HasNumerals :=
  ⟨fun | .array h => h, .array⟩

theorem hasNumerals_object_iff {members : List (String × Json)} :
    (object members).HasNumerals ↔ ∀ member ∈ members, member.2.HasNumerals :=
  ⟨fun | .object h => h, .object⟩

attribute [simp] HasNumerals.null HasNumerals.bool HasNumerals.number HasNumerals.string

@[simp]
theorem hasNumerals_map {α : Type} {encode : α → Json} {as : List α}
    (all : ∀ a ∈ as, (encode a).HasNumerals) : (array (as.map encode)).HasNumerals :=
  .array (List.forall_mem_map.2 all)

@[simp]
theorem hasNumerals_strings (values : List String) : (strings values).HasNumerals :=
  hasNumerals_map fun value _ => .string value

@[simp]
theorem hasNumerals_nat (n : Nat) : (nat n).HasNumerals :=
  .number n

@[simp]
theorem hasNumerals_ofOption {α : Type} {encode : α → Json} {part : Option α}
    (all : ∀ a ∈ part, (encode a).HasNumerals) : (ofOption encode part).HasNumerals := by
  cases part with
  | none => exact .null
  | some a => exact all a rfl

mutual

/-- The tokens of a value. Scanning has to give these back, and putting them together the value. -/
def tokens : Json → List Token
  | array items => openArray :: (itemTokens items ++ [closeArray])
  | object members => openObject :: (memberTokens members ++ [closeObject])
  | string s => [.string (some s)]
  | illFormed => [.string none]
  | value => [scalar value]

/-- The tokens of items with commas between them. No comma stands behind the last one. -/
def itemTokens : List Json → List Token
  | [] => []
  | [item] => tokens item
  | item :: items => tokens item ++ comma :: itemTokens items

/-- The tokens of members with commas between them. Keys are always text, even if they could not be
read. -/
def memberTokens : List (String × Json) → List Token
  | [] => []
  | [(key, value)] => .string (some key) :: colon :: tokens value
  | (key, value) :: members =>
    .string (some key) :: colon :: (tokens value ++ comma :: memberTokens members)

end

variable {items : List Json} {members : List (String × Json)} {cs cs' : List Char}
  {ts ts' : List Token}

theorem itemTokens_cons_cons (item second : Json) (items : List Json) :
    itemTokens (item :: second :: items) = tokens item ++ comma :: itemTokens (second :: items) :=
  rfl

theorem memberTokens_cons_cons (key : String) (value : Json) (second : String × Json)
    (members : List (String × Json)) :
    memberTokens ((key, value) :: second :: members) =
      .string (some key) :: colon :: (tokens value ++ comma :: memberTokens (second :: members)) :=
  rfl

/-! ### Scanning -/

/-- The text is scanned to the tokens, whatever follows, unless it goes on as a number does. Digits
that follow a number would be taken for a part of it. -/
def Scans (cs : List Char) (ts : List Token) : Prop :=
  ∀ rest, EndsNumeral rest → scan (cs ++ rest) = (scan rest).map (ts ++ ·)

theorem scans_nil : Scans [] [] := by
  simp [Scans]

theorem scan_spaces (count : Nat) (rest : List Char) :
    scan (List.replicate count ' ' ++ rest) = scan rest := by
  induction count with
  | zero => rfl
  | succ count ih =>
    rw [List.replicate_succ, List.cons_append, scan, ih]
    · rfl
    all_goals
      intros
      contradiction

theorem scan_newline (level : Nat) (rest : List Char) :
    scan (newline level ++ rest) = scan rest := by
  rw [newline, List.cons_append, scan, scan_spaces]
  · rfl
  all_goals
    intros
    contradiction

namespace Scans

/-- A space is passed over. Spaces stand behind commas and colons. -/
theorem space (h : Scans cs ts) : Scans (' ' :: cs) ts :=
  fun rest ends => (scan_spaces 1 (cs ++ rest)).trans (h rest ends)

/-- Indentation is passed over. It is a line end with spaces behind. -/
theorem newline (h : Scans cs ts) (level : Nat) : Scans (Json.newline level ++ cs) ts := by
  intro rest ends
  rw [List.append_assoc, scan_newline]
  exact h rest ends

theorem append_newline (h : Scans cs ts) (level : Nat) : Scans (cs ++ Json.newline level) ts := by
  intro rest _
  have feed : EndsNumeral (Json.newline level ++ rest) := endsNumeral_cons.2 rfl
  rw [List.append_assoc, h _ feed, scan_newline]

theorem comma (first : Scans cs ts) (others : Scans cs' ts') :
    Scans (cs ++ ',' :: cs') (ts ++ Token.comma :: ts') := by
  intro rest ends
  rw [List.append_assoc, List.cons_append, first _ (endsNumeral_cons.2 rfl), scan, others _ ends]
  simp [Function.comp_def]

theorem member (key : String) (value : Scans cs ts) :
    Scans (quoted key ++ ':' :: cs) (.string (some key) :: colon :: ts) := by
  intro rest ends
  rw [List.append_assoc, List.cons_append, scan_quoted, scan, value _ ends]
  simp [Function.comp_def]

theorem array (items : Scans cs ts) :
    Scans ('[' :: (cs ++ [']'])) (openArray :: (ts ++ [closeArray])) := by
  intro rest _
  rw [List.cons_append, List.append_assoc, List.singleton_append, scan,
    items _ (endsNumeral_cons.2 rfl), scan]
  simp [Function.comp_def]

theorem object (members : Scans cs ts) :
    Scans ('\x7b' :: (cs ++ ['\x7d'])) (openObject :: (ts ++ [closeObject])) := by
  intro rest _
  rw [List.cons_append, List.append_assoc, List.singleton_append, scan,
    members _ (endsNumeral_cons.2 rfl), scan]
  simp [Function.comp_def]

end Scans

/-- A value that is neither an array nor an object is written as one token. Arrays and objects are
treated by the induction. -/
theorem scans_scalarText {value : Json} (h : value.HasNumerals)
    (noArray : ∀ items, value ≠ .array items) (noObject : ∀ members, value ≠ .object members) :
    Scans (scalarText value) (tokens value) := by
  intro rest ends
  cases h with
  | null =>
    change scan ('n' :: 'u' :: 'l' :: 'l' :: rest) = _
    rw [scan]
    rfl
  | bool value =>
    cases value with
    | false =>
      change scan ('f' :: 'a' :: 'l' :: 's' :: 'e' :: rest) = _
      rw [scan]
      rfl
    | true =>
      change scan ('t' :: 'r' :: 'u' :: 'e' :: rest) = _
      rw [scan]
      rfl
  | number n =>
    exact (scan_numeral (isNumeral_toString n) (fun _ => isNumeralChar_of_mem_toString) ends).trans
      (by rw [numeralValue_toString]; rfl)
  | fraction h => exact (scan_numeral h.1 h.2.1 ends).trans (by rw [h.2.2]; rfl)
  | string s => exact scan_quoted s rest
  | illFormed =>
    have scanned : scanUnits ("\\ud800\"".toList ++ rest) = some ([.code 0xD800], rest) := rfl
    exact scan_quote scanned
  | array => exact (noArray _ rfl).elim
  | object => exact (noObject _ rfl).elim

/-! ### Values in one line -/

theorem scans_compactItems (all : ∀ item ∈ items, Scans (compactChars item) (tokens item)) :
    Scans (compactItems items) (itemTokens items) := by
  induction items with
  | nil => exact scans_nil
  | cons item items ih =>
    obtain ⟨first, others⟩ := List.forall_mem_cons.1 all
    cases items with
    | nil => exact first
    | cons second items => exact first.comma (ih others)

theorem scans_compactMembers
    (all : ∀ member ∈ members, Scans (compactChars member.2) (tokens member.2)) :
    Scans (compactMembers members) (memberTokens members) := by
  induction members with
  | nil => exact scans_nil
  | cons member members ih =>
    obtain ⟨key, value⟩ := member
    obtain ⟨first, others⟩ := List.forall_mem_cons.1 all
    cases members with
    | nil => exact first.member key
    | cons second members => exact (first.comma (ih others)).member key

/-- A value in one line is scanned to its tokens. The induction is on the value, with its items and
members. -/
theorem scans_compactChars {value : Json} (h : value.HasNumerals) :
    Scans (compactChars value) (tokens value) := by
  induction h with
  | array _ scanned => exact (scans_compactItems scanned).array
  | object _ scanned => exact (scans_compactMembers scanned).object
  | null => exact scans_scalarText .null nofun nofun
  | bool value => exact scans_scalarText (.bool value) nofun nofun
  | number n => exact scans_scalarText (.number n) nofun nofun
  | fraction h => exact scans_scalarText (.fraction h) nofun nofun
  | string s => exact scans_scalarText (.string s) nofun nofun
  | illFormed => exact scans_scalarText .illFormed nofun nofun

/-! ### Values over many lines -/

theorem scans_prettyItems
    (all : ∀ item ∈ items, ∀ level, Scans (prettyChars level item) (tokens item)) (level : Nat) :
    Scans (prettyItems level items) (itemTokens items) := by
  induction items with
  | nil => exact scans_nil
  | cons item items ih =>
    obtain ⟨first, others⟩ := List.forall_mem_cons.1 all
    have line := (first level).newline level
    cases items with
    | nil => exact line
    | cons second items => exact line.comma (ih others)

theorem scans_prettyMembers
    (all : ∀ member ∈ members, ∀ level, Scans (prettyChars level member.2) (tokens member.2))
    (level : Nat) : Scans (prettyMembers level members) (memberTokens members) := by
  induction members with
  | nil => exact scans_nil
  | cons member members ih =>
    obtain ⟨key, value⟩ := member
    obtain ⟨first, others⟩ := List.forall_mem_cons.1 all
    have value := (first level).space
    cases members with
    | nil => simpa [prettyMembers, memberTokens] using (value.member key).newline level
    | cons second members =>
      have line := ((value.comma (ih others)).member key).newline level
      simpa [prettyMembers, memberTokens_cons_cons] using line

/-- A value over many lines is scanned to its tokens, whatever the indentation is. Only the blanks
differ from the form in one line. -/
theorem scans_prettyChars {value : Json} (h : value.HasNumerals) (level : Nat) :
    Scans (prettyChars level value) (tokens value) := by
  induction h generalizing level with
  | @array items _ scanned =>
    cases items with
    | nil => exact scans_nil.array
    | cons item items =>
      exact ((scans_prettyItems scanned (level + 1)).append_newline level).array
  | @object members _ scanned =>
    cases members with
    | nil => exact scans_nil.object
    | cons member members =>
      exact ((scans_prettyMembers scanned (level + 1)).append_newline level).object
  | null => exact scans_scalarText .null nofun nofun
  | bool value => exact scans_scalarText (.bool value) nofun nofun
  | number n => exact scans_scalarText (.number n) nofun nofun
  | fraction h => exact scans_scalarText (.fraction h) nofun nofun
  | string s => exact scans_scalarText (.string s) nofun nofun
  | illFormed => exact scans_scalarText .illFormed nofun nofun

/-! ### Reading -/

/-- A value may begin. The two differ in whether the array may end instead. -/
def Expectation.IsBegin (expected : Expectation) : Prop :=
  expected = .value ∨ expected = .firstItem

namespace Reading

/-- The tokens of the value are put together to it, wherever a value may begin. What is put together
goes to the innermost array or object that is open. -/
def IsPut (value : Json) : Prop :=
  ∀ stack expected, expected.IsBegin → run ⟨stack, expected⟩ (tokens value) = put value stack

theorem run_singleton (r : Reading) (token : Token) : r.run [token] = r.step token := by
  simp [run]

theorem step_of_isBegin {expected : Expectation} (h : expected.IsBegin) {token : Token}
    (starts : token ≠ closeArray) (stack : List Frame) :
    step ⟨stack, expected⟩ token = beginValue stack token := by
  obtain rfl | rfl := h
  · rfl
  · cases token <;> first | rfl | exact (starts rfl).elim

theorem isPut_of_single {value : Json} {token : Token} (single : tokens value = [token])
    (starts : token ≠ closeArray) (begins : ∀ stack, beginValue stack token = put value stack) :
    IsPut value := by
  intro stack expected h
  rw [single, run_singleton, step_of_isBegin h starts, begins]

theorem run_itemTokens {item : Json} (all : ∀ i ∈ item :: items, IsPut i) {expected : Expectation}
    (h : expected.IsBegin) (before : List Json) (stack : List Frame) :
    run ⟨.array before :: stack, expected⟩ (itemTokens (item :: items)) =
      some ⟨.array ((item :: items).reverse ++ before) :: stack, .separator⟩ := by
  obtain ⟨first, others⟩ := List.forall_mem_cons.1 all
  -- Only the first item may stand where the array could end; the others follow a comma.
  induction items generalizing item before expected with
  | nil => exact first _ _ h
  | cons second items ih =>
    rw [itemTokens_cons_cons, run_append, first _ _ h]
    change run ⟨.array (item :: before) :: stack, .value⟩ (itemTokens (second :: items)) = _
    obtain ⟨next, further⟩ := List.forall_mem_cons.1 others
    rw [ih others (.inl rfl) _ next further]
    simp

/-- Members with keys that are text. It is the form in which they are collected while they are read.
-/
def ofKeys (members : List (String × Json)) : List (Option String × Json) :=
  members.map fun (key, value) => (some key, value)

theorem ofMembers_ofKeys (members : List (String × Json)) :
    ofMembers (ofKeys members) = .object members := by
  rw [ofMembers, ofKeys, Lists.mapM_map (k := id), List.map_id]
  exact fun _ _ => rfl

theorem run_member {value : Json} (h : IsPut value) {expected : Expectation}
    (named : expected = .firstKey ∨ expected = .key) (key : String)
    (before : List (Option String × Json)) (stack : List Frame) (further : List Token) :
    run ⟨.object before :: stack, expected⟩
        (.string (some key) :: colon :: (tokens value ++ further)) =
      run ⟨.object ((some key, value) :: before) :: stack, .separator⟩ further := by
  have opened : step ⟨.object before :: stack, expected⟩ (.string (some key)) =
      some ⟨.member before (some key) :: stack, .colon⟩ := by
    obtain rfl | rfl := named <;> rfl
  rw [run, opened, Option.bind_some]
  change run ⟨.member before (some key) :: stack, .value⟩ (tokens value ++ further) = _
  rw [run_append, h _ _ (.inl rfl)]
  rfl

theorem run_memberTokens {key : String} {value : Json}
    (all : ∀ m ∈ (key, value) :: members, IsPut m.2) {expected : Expectation}
    (named : expected = .firstKey ∨ expected = .key) (before : List (Option String × Json))
    (stack : List Frame) :
    run ⟨.object before :: stack, expected⟩ (memberTokens ((key, value) :: members)) =
      some ⟨.object ((ofKeys ((key, value) :: members)).reverse ++ before) :: stack,
        .separator⟩ := by
  obtain ⟨first, others⟩ := List.forall_mem_cons.1 all
  induction members generalizing key value before expected with
  | nil =>
    have alone := run_member first named key before stack []
    rw [List.append_nil] at alone
    exact alone
  | cons second members ih =>
    obtain ⟨next, further⟩ := List.forall_mem_cons.1 others
    rw [memberTokens_cons_cons, run_member first named]
    change run ⟨.object ((some key, value) :: before) :: stack, .key⟩
      (memberTokens (second :: members)) = _
    rw [ih others (.inr rfl) _ next further]
    simp [ofKeys]

/-- The tokens of a value are put together to the value. The induction is on the value, for every
stack. -/
theorem run_tokens {value : Json} (h : value.HasNumerals) : IsPut value := by
  induction h with
  | null | bool | number | fraction | string | illFormed =>
    exact isPut_of_single rfl (by simp) fun _ => rfl
  | @array items _ all =>
    intro stack expected begins
    rw [tokens, run, step_of_isBegin begins (by simp)]
    change run ⟨.array [] :: stack, .firstItem⟩ (itemTokens items ++ [closeArray]) = _
    cases items with
    | nil => exact run_singleton _ _
    | cons item items =>
      rw [run_append, run_itemTokens all (.inr rfl), Option.bind_some, run_singleton,
        List.append_nil]
      change put (.array (item :: items).reverse.reverse) stack = _
      rw [List.reverse_reverse]
  | @object members _ all =>
    intro stack expected begins
    rw [tokens, run, step_of_isBegin begins (by simp)]
    change run ⟨.object [] :: stack, .firstKey⟩ (memberTokens members ++ [closeObject]) = _
    cases members with
    | nil => exact run_singleton _ _
    | cons member members =>
      rw [run_append, run_memberTokens all (.inl rfl), Option.bind_some, run_singleton,
        List.append_nil]
      change put (ofMembers (ofKeys (member :: members)).reverse.reverse) stack = _
      rw [List.reverse_reverse, ofMembers_ofKeys]

end Reading

/-- A text is read as the value to whose tokens it is scanned. Both ways of writing are therefore
treated alike. -/
theorem read?_of_scans {value : Json} (h : value.HasNumerals) {text : String}
    (scanned : Scans text.toList (tokens value)) : read? text = some value := by
  have all := scanned [] fun _ absent => nomatch absent
  simp only [List.append_nil] at all
  rw [read?, all]
  simp only [scan, Option.map_some, Option.bind_eq_bind, Option.bind_some, List.append_nil]
  rw [Reading.start, Reading.run_tokens h [] .value (.inl rfl)]
  rfl

/-- A value that is written in one line is read back. It is the form of values inside a text. -/
theorem read?_compact {value : Json} (h : value.HasNumerals) :
    read? value.compact = some value := by
  refine read?_of_scans h ?_
  rw [compact, String.toList_ofList]
  exact scans_compactChars h

/-- A value that is written over many lines is read back. It is the form of files, which end with a
line end. -/
theorem read?_pretty {value : Json} (h : value.HasNumerals) :
    read? (value.pretty ++ "\n") = some value := by
  refine read?_of_scans h ?_
  rw [String.toList_append, pretty, String.toList_ofList]
  exact (scans_prettyChars h 0).append_newline 0

end StaticWiring.Json
