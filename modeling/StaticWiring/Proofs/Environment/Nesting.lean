import Mathlib.Data.List.Infix
import StaticWiring.Environment.Placeholder

/-!
# The nesting of placeholders

A text is nested if every opening of a placeholder in it has a closing brace of its own, and no
other closing brace stands in it. The brace that closes a placeholder is the one up to which the
text behind the opening is nested. The body of a placeholder is split at the first colon that stands
in no placeholder of the body. What the scanners for openings, closing braces and colons find is
described by these words alone.

## Main definitions

* `Placeholder.Nested` — a nested text, without certain characters outside its placeholders.
* `Placeholder.IsSplit` — the body of a placeholder with its key and its default.
* `Placeholder.IsFirst` — a text with its first placeholder, which is closed.
* `Placeholder.IsUnclosed` — a text whose first placeholder is not closed.

## Main results

* `Placeholder.findOpen_eq_some_iff`, `Placeholder.closing_eq_some_iff`,
  `Placeholder.splitDefault_eq_iff` — what the scanners find.
-/

namespace StaticWiring.Placeholder

variable {stops : Char → Bool} {c : Char} {cs before inner body after key rest : List Char}
  {default : Option (List Char)} {depth : Nat}

/-! ### Openings -/

/-- What opens a placeholder. A dollar sign or a brace alone is plain text. -/
def opening : List Char :=
  ['$', '\x7b']

theorem opening_prefix_iff : opening <+: cs ↔ ∃ rest, cs = '$' :: '\x7b' :: rest :=
  exists_congr fun _ => eq_comm

/-- An opening does not begin in one text and end in the next one, unless that begins with a
brace. -/
theorem opening_prefix_append_iff (ends : rest.head? ≠ some '\x7b') :
    opening <+: c :: (cs ++ rest) ↔ opening <+: c :: cs := by
  constructor
  · intro starts
    obtain ⟨further, text⟩ := opening_prefix_iff.1 starts
    obtain ⟨rfl, tail⟩ := List.cons.inj text
    cases cs with
    | nil => exact (ends (congrArg List.head? tail)).elim
    | cons d cs =>
      obtain ⟨rfl, -⟩ := List.cons.inj tail
      exact opening_prefix_iff.2 ⟨cs, rfl⟩
  · exact fun starts => starts.trans (List.prefix_append (c :: cs) rest)

theorem findOpen_opening (inner : List Char) : findOpen (opening ++ inner) = some ([], inner) :=
  rfl

theorem findOpen_cons (plain : ¬ opening <+: c :: cs) :
    findOpen (c :: cs) = (findOpen cs).map fun (before, inner) => (c :: before, inner) := by
  rw [findOpen]
  · cases findOpen cs <;> rfl
  · rintro rest rfl rfl
    exact plain (opening_prefix_iff.2 ⟨rest, rfl⟩)

/-- Without an opening, none is found. The search therefore ends without a result on plain text
only. -/
theorem findOpen_eq_none_iff : findOpen cs = none ↔ ¬ opening <:+: cs := by
  induction cs with
  | nil => simp [findOpen, opening]
  | cons c cs ih =>
    rw [List.infix_cons_iff]
    by_cases starts : opening <+: c :: cs
    · obtain ⟨inner, text⟩ := starts
      rw [← text, findOpen_opening]
      simp
    · rw [findOpen_cons starts, Option.map_eq_none_iff, ih]
      simp [starts]

theorem findOpen_append (absent : ¬ opening <:+: before) (inner : List Char) :
    findOpen (before ++ (opening ++ inner)) = some (before, inner) := by
  induction before with
  | nil => rfl
  | cons c before ih =>
    rw [List.infix_cons_iff, not_or] at absent
    have plain : ¬ opening <+: c :: (before ++ (opening ++ inner)) := by
      rw [opening_prefix_append_iff (by simp [opening])]
      exact absent.1
    rw [List.cons_append, findOpen_cons plain, ih absent.2]
    rfl

/-- No opening stands in front of the one that is found. What stands in front is kept as it is. -/
theorem not_infix_of_findOpen (found : findOpen cs = some (before, inner)) :
    ¬ opening <:+: before := by
  induction cs generalizing before with
  | nil => cases found
  | cons c cs ih =>
    by_cases starts : opening <+: c :: cs
    · obtain ⟨rest, text⟩ := starts
      rw [← text, findOpen_opening] at found
      cases found
      simp [opening]
    · rw [findOpen_cons starts, Option.map_eq_some_iff] at found
      obtain ⟨⟨front, rest⟩, found, same⟩ := found
      obtain ⟨rfl, rfl⟩ := Prod.mk.inj same
      rw [List.infix_cons_iff, not_or]
      refine ⟨fun early => starts ?_, ih found⟩
      rw [eq_of_findOpen found]
      exact early.trans (List.prefix_append (c :: front) _)

/-- The first opening is found. The search is thus told by what it finds, so that later proofs need
not run it. -/
theorem findOpen_eq_some_iff :
    findOpen cs = some (before, inner) ↔
      cs = before ++ (opening ++ inner) ∧ ¬ opening <:+: before := by
  constructor
  · exact fun found => ⟨eq_of_findOpen found, not_infix_of_findOpen found⟩
  · rintro ⟨rfl, absent⟩
    exact findOpen_append absent inner

/-! ### Closing braces -/

/-- Every opening in the text has a closing brace of its own, no other closing brace stands in it,
and no character that `stops` holds of stands outside the placeholders. -/
inductive Nested : (stops : Char → Bool) → List Char → Prop
  | nil {stops : Char → Bool} : Nested stops []
  | char {stops : Char → Bool} {c : Char} {cs : List Char} (visible : c ≠ '\x7d')
    (passes : stops c = false) (plain : ¬ opening <+: c :: cs) (rest : Nested stops cs) :
    Nested stops (c :: cs)
  | placeholder {stops : Char → Bool} {body rest : List Char} (inner : Nested (fun _ => false) body)
    (after : Nested stops rest) : Nested stops (opening ++ (body ++ '\x7d' :: rest))

/-- The text is nested once it has closed `depth` placeholders that are open at its start. Each of
them is closed in turn, and what stands between is nested. -/
def NestedBehind : (depth : Nat) → List Char → Prop
  | 0, cs => Nested (fun _ => false) cs
  | depth + 1, cs => ∃ inner rest,
    cs = inner ++ '\x7d' :: rest ∧ Nested (fun _ => false) inner ∧ NestedBehind depth rest

theorem NestedBehind.char (visible : c ≠ '\x7d') (plain : ¬ opening <+: c :: cs)
    (h : NestedBehind depth cs) : NestedBehind depth (c :: cs) := by
  cases depth with
  | zero => exact Nested.char visible rfl plain h
  | succ depth =>
    obtain ⟨inner, rest, rfl, nested, behind⟩ := h
    rw [opening_prefix_append_iff (by simp)] at plain
    exact ⟨c :: inner, rest, rfl, .char visible rfl plain nested, behind⟩

theorem NestedBehind.placeholder (nested : Nested (fun _ => false) body)
    (h : NestedBehind depth rest) :
    NestedBehind depth (opening ++ (body ++ '\x7d' :: rest)) := by
  cases depth with
  | zero => exact Nested.placeholder nested h
  | succ depth =>
    obtain ⟨inner, rest, rfl, further, behind⟩ := h
    exact ⟨opening ++ (body ++ '\x7d' :: inner), rest, by simp, .placeholder nested further, behind⟩

theorem closing_opening (depth : Nat) (cs : List Char) :
    closing depth (opening ++ cs) =
      (closing (depth + 1) cs).map fun (body, after) => (opening ++ body, after) := by
  cases found : closing (depth + 1) cs <;> simp [closing, opening, found]

theorem closing_char (visible : c ≠ '\x7d') (plain : ¬ opening <+: c :: cs) (depth : Nat) :
    closing depth (c :: cs) =
      (closing depth cs).map fun (body, after) => (c :: body, after) := by
  rw [closing.eq_def]
  split
  · contradiction
  · next rest text =>
    exact (plain (opening_prefix_iff.2 ⟨rest, text⟩)).elim
  · next d rest _ text =>
    obtain ⟨rfl, rfl⟩ := List.cons.inj text
    rw [if_neg visible]
    cases closing depth cs <;> rfl

theorem closing_brace (depth : Nat) (cs : List Char) :
    closing (depth + 1) ('\x7d' :: cs) =
      (closing depth cs).map fun (body, after) => ('\x7d' :: body, after) := by
  cases found : closing depth cs <;> simp [closing, found]

/-- The search for a closing brace goes through nested text. It neither finds a brace there nor
changes its depth in the end. -/
theorem closing_append (nested : Nested stops body) (ends : rest.head? ≠ some '\x7b')
    (depth : Nat) :
    closing depth (body ++ rest) =
      (closing depth rest).map fun (further, after) => (body ++ further, after) := by
  induction nested generalizing depth rest with
  | nil => simp
  | char visible passes plain further ih =>
    rw [← opening_prefix_append_iff ends] at plain
    rw [List.cons_append, closing_char visible plain, ih ends, Option.map_map]
    rfl
  | @placeholder stops body behind _ _ ihInner ihAfter =>
    have text : opening ++ (body ++ '\x7d' :: behind) ++ rest =
        opening ++ (body ++ '\x7d' :: (behind ++ rest)) := by
      simp
    rw [text, closing_opening, ihInner (by simp), closing_brace, ihAfter ends]
    simp [Function.comp_def]

/-- The text in front of the brace that is found is nested, once it has closed what was open. The
induction is along the search, with the depth as it changes. -/
theorem nestedBehind_of_closing (found : closing depth cs = some (body, after)) :
    NestedBehind depth body := by
  fun_induction closing depth cs generalizing body with
  | case1 => cases found
  | case2 depth cs body after h ih =>
    cases found
    obtain ⟨inner, rest, rfl, nested, behind⟩ := ih h
    exact .placeholder nested behind
  | case3 => cases found
  | case4 =>
    cases found
    exact Nested.nil
  | case5 _ _ body rest h _ ih =>
    cases found
    exact ⟨[], body, rfl, .nil, ih h⟩
  | case6 => cases found
  | case7 depth c cs other visible body rest h ih =>
    cases found
    refine .char visible (fun starts => ?_) (ih h)
    obtain ⟨further, text⟩ := opening_prefix_iff.1 starts
    obtain ⟨rfl, rfl⟩ := List.cons.inj text
    exact other _ rfl (eq_of_closing h)
  | case8 => cases found

/-- The brace is found up to which the text is nested. It is the only brace of that kind, since
nested text has none left over. -/
theorem closing_eq_some_iff :
    closing 0 cs = some (body, after) ↔
      cs = body ++ '\x7d' :: after ∧ Nested (fun _ => false) body := by
  constructor
  · exact fun found => ⟨eq_of_closing found, nestedBehind_of_closing found⟩
  · rintro ⟨rfl, nested⟩
    rw [closing_append nested (by simp)]
    simp [closing]

/-! ### Keys and defaults -/

/-- The body of a placeholder is a key alone, without a colon outside its placeholders, or such a
key with a default behind a colon. -/
inductive IsSplit : (body key : List Char) → (default : Option (List Char)) → Prop
  | alone {key : List Char} (nested : Nested (· == ':') key) : IsSplit key key none
  | around {key : List Char} (nested : Nested (· == ':') key) (default : List Char) :
    IsSplit (key ++ ':' :: default) key (some default)

theorem splitDefault_opening (depth : Nat) (cs : List Char) :
    splitDefault depth (opening ++ cs) =
      (opening ++ (splitDefault (depth + 1) cs).1, (splitDefault (depth + 1) cs).2) := by
  simp [splitDefault, opening]

theorem splitDefault_brace (depth : Nat) (cs : List Char) :
    splitDefault (depth + 1) ('\x7d' :: cs) =
      ('\x7d' :: (splitDefault depth cs).1, (splitDefault depth cs).2) := by
  simp [splitDefault]

theorem splitDefault_char (visible : c ≠ '\x7d') (plain : ¬ opening <+: c :: cs)
    (passes : ¬ (c = ':' ∧ depth = 0)) :
    splitDefault depth (c :: cs) =
      (c :: (splitDefault depth cs).1, (splitDefault depth cs).2) := by
  rw [splitDefault, if_neg passes, if_neg visible]
  rintro rest rfl rfl
  exact plain (opening_prefix_iff.2 ⟨rest, rfl⟩)

/-- The search for a colon goes through nested text, and passes over colons in placeholders. Only a
colon at the outermost level is a separator. -/
theorem splitDefault_append (nested : Nested stops body) (ends : rest.head? ≠ some '\x7b')
    (depth : Nat) (colon : depth = 0 → stops ':' = true) :
    splitDefault depth (body ++ rest) =
      (body ++ (splitDefault depth rest).1, (splitDefault depth rest).2) := by
  induction nested generalizing depth rest with
  | nil => rfl
  | @char stops c cs visible passes plain further ih =>
    rw [← opening_prefix_append_iff ends] at plain
    have goesOn : ¬ (c = ':' ∧ depth = 0) := by
      rintro ⟨rfl, outside⟩
      rw [colon outside] at passes
      cases passes
    rw [List.cons_append, splitDefault_char visible plain goesOn, ih ends depth colon]
    rfl
  | @placeholder stops body behind _ _ ihInner ihAfter =>
    have text : opening ++ (body ++ '\x7d' :: behind) ++ rest =
        opening ++ (body ++ '\x7d' :: (behind ++ rest)) := by
      simp
    rw [text, splitDefault_opening, ihInner (by simp) (depth + 1) (by simp), splitDefault_brace,
      ihAfter ends depth colon]
    simp

theorem splitDefault_of_isSplit (h : IsSplit body key default) :
    splitDefault 0 body = (key, default) := by
  cases h with
  | alone nested =>
    have ends : ([] : List Char).head? ≠ some '\x7b' := by simp
    have all := splitDefault_append nested ends 0 fun _ => rfl
    simpa [splitDefault] using all
  | around nested default =>
    rw [splitDefault_append nested (by simp) 0 fun _ => rfl]
    simp [splitDefault]

/-- A nested text is split somewhere. It is split at its first colon, or not at all. -/
theorem exists_isSplit (nested : Nested stops body) : ∃ key default, IsSplit body key default := by
  induction nested with
  | nil => exact ⟨[], none, .alone .nil⟩
  | @char _ c cs visible _ plain _ ih =>
    by_cases colon : c = ':'
    · subst colon
      exact ⟨[], some cs, .around .nil cs⟩
    · have passes : (c == ':') = false := beq_false_of_ne colon
      obtain ⟨key, default, split⟩ := ih
      cases split with
      | alone nested => exact ⟨_, none, .alone (.char visible passes plain nested)⟩
      | around nested default =>
        rw [opening_prefix_append_iff (by simp)] at plain
        exact ⟨_, some default, .around (.char visible passes plain nested) default⟩
  | @placeholder _ inner rest nested _ _ ih =>
    obtain ⟨key, default, split⟩ := ih
    cases split with
    | alone further => exact ⟨_, none, .alone (.placeholder nested further)⟩
    | @around key further default =>
      refine ⟨opening ++ (inner ++ '\x7d' :: key), some default, ?_⟩
      have split := IsSplit.around (.placeholder nested further) default
      simpa using split

/-- The body of a placeholder is split where it says. The split is thus told without the search. -/
theorem splitDefault_eq_iff (nested : Nested stops body) :
    splitDefault 0 body = (key, default) ↔ IsSplit body key default := by
  constructor
  · intro found
    obtain ⟨key', default', split⟩ := exists_isSplit nested
    obtain ⟨rfl, rfl⟩ := Prod.mk.inj ((splitDefault_of_isSplit split).symm.trans found)
    exact split
  · exact splitDefault_of_isSplit

/-! ### The first placeholder -/

/-- Behind `before` comes the first placeholder of the text, with its key and maybe a default, and
behind its closing brace `after`. -/
structure IsFirst (cs before key : List Char) (default : Option (List Char))
    (after : List Char) : Prop where
  /-- No placeholder is opened before. -/
  first : ¬ opening <:+: before
  /-- The body of the placeholder is nested, and split into the key and the default. -/
  exists_body : ∃ body, cs = before ++ (opening ++ (body ++ '\x7d' :: after)) ∧
    Nested (fun _ => false) body ∧ IsSplit body key default

/-- The first placeholder of the text is not closed: up to no brace behind its opening the text is
nested. -/
def IsUnclosed (cs : List Char) : Prop :=
  ∃ before inner, cs = before ++ (opening ++ inner) ∧ ¬ opening <:+: before ∧
    ∀ body after, inner = body ++ '\x7d' :: after → ¬ Nested (fun _ => false) body

/-- The first placeholder is the one that is found. The three searches together find just its parts.
-/
theorem isFirst_iff :
    IsFirst cs before key default after ↔ ∃ inner body, findOpen cs = some (before, inner) ∧
      closing 0 inner = some (body, after) ∧ splitDefault 0 body = (key, default) := by
  constructor
  · rintro ⟨first, body, rfl, nested, split⟩
    exact ⟨_, body, findOpen_append first _, closing_eq_some_iff.2 ⟨rfl, nested⟩,
      splitDefault_of_isSplit split⟩
  · rintro ⟨inner, body, opened, closed, split⟩
    obtain ⟨rfl, first⟩ := findOpen_eq_some_iff.1 opened
    obtain ⟨rfl, nested⟩ := closing_eq_some_iff.1 closed
    exact ⟨first, body, rfl, nested, (splitDefault_eq_iff nested).1 split⟩

/-- A text has one first placeholder at most. Each search has one result. -/
theorem IsFirst.unique {before' key' after' : List Char} {default' : Option (List Char)}
    (h : IsFirst cs before key default after) (h' : IsFirst cs before' key' default' after') :
    before = before' ∧ key = key' ∧ default = default' ∧ after = after' := by
  obtain ⟨inner, body, opened, closed, split⟩ := isFirst_iff.1 h
  obtain ⟨inner', body', opened', closed', split'⟩ := isFirst_iff.1 h'
  obtain ⟨rfl, rfl⟩ := Prod.mk.inj (Option.some.inj (opened.symm.trans opened'))
  obtain ⟨rfl, rfl⟩ := Prod.mk.inj (Option.some.inj (closed.symm.trans closed'))
  obtain ⟨rfl, rfl⟩ := Prod.mk.inj (split.symm.trans split')
  exact ⟨rfl, rfl, rfl, rfl⟩

theorem IsFirst.infix (h : IsFirst cs before key default after) : opening <:+: cs := by
  obtain ⟨-, body, rfl, -⟩ := h
  exact ⟨before, body ++ '\x7d' :: after, List.append_assoc _ _ _⟩

theorem isUnclosed_iff :
    IsUnclosed cs ↔
      ∃ before inner, findOpen cs = some (before, inner) ∧ closing 0 inner = none := by
  refine exists₂_congr fun before inner => ?_
  rw [findOpen_eq_some_iff, and_assoc, Option.eq_none_iff_forall_ne_some]
  simp only [ne_eq, Prod.forall, closing_eq_some_iff, not_and]

theorem IsFirst.not_isUnclosed (h : IsFirst cs before key default after) : ¬ IsUnclosed cs := by
  intro kept
  obtain ⟨_, _, opened, unclosed⟩ := isUnclosed_iff.1 kept
  obtain ⟨_, _, opened', closed, -⟩ := isFirst_iff.1 h
  cases opened.symm.trans opened'
  cases unclosed.symm.trans closed

/-- A text has no opening, or its first placeholder is closed or not. These are the cases of
expansion. -/
theorem first_cases (cs : List Char) :
    ¬ opening <:+: cs ∨ IsUnclosed cs ∨
      ∃ before key default after, IsFirst cs before key default after := by
  cases opened : findOpen cs with
  | none => exact .inl (findOpen_eq_none_iff.1 opened)
  | some found =>
    cases closed : closing 0 found.2 with
    | none => exact .inr (.inl (isUnclosed_iff.2 ⟨_, _, opened, closed⟩))
    | some parts => exact .inr (.inr ⟨_, _, _, _, isFirst_iff.2 ⟨_, _, opened, closed, rfl⟩⟩)

theorem IsSplit.prefix (h : IsSplit body key default) : key <+: body := by
  cases h with
  | alone => exact List.prefix_refl _
  | around => exact List.prefix_append _ _

/-- The key of the first placeholder is a piece of the text, and shorter. Expanding the key thus
comes to an end, whatever it leads to. -/
theorem IsFirst.key_infix (h : IsFirst cs before key default after) :
    key <:+: cs ∧ key.length < cs.length := by
  obtain ⟨-, body, rfl, -, split⟩ := h
  obtain ⟨rest, rfl⟩ := split.prefix
  refine ⟨⟨before ++ opening, rest ++ '\x7d' :: after, by simp⟩, ?_⟩
  simp only [List.length_append, List.length_cons]
  omega

/-- What follows the first placeholder is the end of the text. It is what expansion goes on with. -/
theorem IsFirst.suffix (h : IsFirst cs before key default after) : after <:+ cs := by
  obtain ⟨-, body, rfl, -⟩ := h
  exact ⟨before ++ (opening ++ (body ++ ['\x7d'])), by simp⟩

/-- What follows the first placeholder is shorter than the text. The braces at least are left
behind. -/
theorem IsFirst.length_lt (h : IsFirst cs before key default after) : after.length < cs.length := by
  obtain ⟨-, body, rfl, -⟩ := h
  simp only [List.length_append, List.length_cons]
  omega

end StaticWiring.Placeholder
