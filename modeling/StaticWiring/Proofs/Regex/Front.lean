import StaticWiring.Proofs.Regex.ClosedSymbols
import StaticWiring.Regex.Parser

/-!
# Symbols read in a group and by themselves

The same symbols are read once in a group, and once outside of any group behind further items. The
groups that they open and close are the same. Only the outermost one differs: there, the further
items stand in front of everything else.

## Main definitions

* `Regex.Group.WithFront` — a group, and the same group with items in front.
* `Regex.Inside` — the groups that are open inside a group, and the same groups without it.

## Main results

* `Regex.openAfter_of_readSymbols?` — symbols that are read close all groups that are open.
* `Regex.Inside.read` — symbols that are read on both sides lead to groups that again differ only in
  what stands in front.
-/

namespace StaticWiring.Regex

variable {outer outer' : List Group} {names : List String} {kept : Nat} {g g' : Group}
  {symbols : List Symbol} {n m : Nat}

/-! ### Open groups -/

theorem openAfter_succ (h : openAfter n symbols = some m) :
    openAfter (n + 1) symbols = some (m + 1) := by
  induction symbols generalizing n with
  | nil => exact congrArg (Option.map (· + 1)) h
  | cons symbol symbols ih =>
    cases symbol with
    | closeGroup =>
      cases n with
      | zero => cases h
      | succ n => exact ih h
    | openGroup | openScope => exact ih h
    | _ =>
      rw [openAfter.eq_def] at h ⊢
      exact ih h

/-- All groups are closed behind the symbols that are read. Otherwise reading them would have
failed. -/
theorem openAfter_of_readSymbols? {nested : Nested}
    (h : readSymbols? outer names kept g symbols = some nested) :
    openAfter outer.length symbols = some 0 := by
  induction symbols generalizing outer names kept g with
  | nil =>
    rw [readSymbols?] at h
    split at h
    · next none => rw [List.isEmpty_iff.1 none]; rfl
    · cases h
  | cons symbol symbols ih =>
    cases symbol with
    | openGroup name =>
      rw [readSymbols?] at h
      split at h
      · cases h
      · exact ih h
    | openScope change =>
      rw [readSymbols?] at h
      exact ih h
    | closeGroup =>
      rw [readSymbols?.eq_def] at h
      -- Where nothing is open, reading fails, so the depth never falls below zero.
      cases outer with
      | nil => cases h
      | cons parent outer => exact ih h
    | _ =>
      rw [readSymbols?.eq_def] at h
      rw [openAfter.eq_def]
      simp only at h ⊢
      split at h
      · exact ih h
      · cases h

/-! ### Items in front -/

/-- The second group is the first with items in front of all others. Items are collected from the
last to the first, which is why the front is turned around. -/
inductive Group.WithFront (front : List Nested) : Group → Group → Prop
  /-- The group has only one alternative so far. -/
  | items (g : Group) (single : g.alternatives = []) :
    WithFront front g { g with items := g.items ++ front.reverse }
  /-- The first alternative is complete. -/
  | alternative (g : Group) (others : List Nested) (first : List Nested)
    (several : g.alternatives = others ++ [Nested.sequence first]) :
    WithFront front g { g with alternatives := others ++ [Nested.sequence (front ++ first)] }

namespace Group.WithFront

variable {front : List Nested} {next : Group} {symbol : Symbol}

theorem settings_eq (h : g.WithFront front g') : g'.settings = g.settings := by
  cases h <;> rfl

theorem add (h : g.WithFront front g') (item : Nested) :
    (g.add item).WithFront front (g'.add item) := by
  cases h with
  | items single => exact .items (g.add item) single
  | alternative others first several => exact .alternative (g.add item) others first several

theorem withSettings (h : g.WithFront front g') (settings : Settings) :
    Group.WithFront front { g with settings } { g' with settings } := by
  cases h with
  | items single => exact .items { g with settings } single
  | alternative others first several =>
    exact .alternative { g with settings } others first several

theorem nextAlternative (h : g.WithFront front g') :
    g.nextAlternative.WithFront front g'.nextAlternative := by
  cases h with
  | items single =>
    have behind : g.nextAlternative.alternatives = [] ++ [Nested.sequence g.items.reverse] := by
      rw [Group.nextAlternative, single]
      rfl
    have together : Group.nextAlternative { g with items := g.items ++ front.reverse } =
        { g.nextAlternative with
          alternatives := [] ++ [Nested.sequence (front ++ g.items.reverse)] } := by
      simp [Group.nextAlternative, single]
    rw [together]
    exact alternative g.nextAlternative [] g.items.reverse behind
  | alternative others first several =>
    have behind : g.nextAlternative.alternatives =
        (Nested.sequence g.items.reverse :: others) ++ [Nested.sequence first] := by
      rw [Group.nextAlternative, several]
      rfl
    exact alternative g.nextAlternative _ first behind

theorem repeatLast? {least : Nat} {most : Option Nat} {isMarked : Bool}
    (h : g.WithFront front g') (found : g.repeatLast? least most isMarked = some next) :
    ∃ next', g'.repeatLast? least most isMarked = some next' ∧ next.WithFront front next' := by
  obtain ⟨number, settings, alternatives, items⟩ := g
  cases items with
  | nil => cases found
  | cons item items =>
    unfold Group.repeatLast? at found ⊢
    simp only at found
    split at found
    · cases found
    · next repeatable =>
      cases found
      cases h with
      | items single => exact ⟨_, if_neg repeatable, .items _ single⟩
      | alternative others first several =>
        exact ⟨_, if_neg repeatable, .alternative _ others first several⟩

/-- What a group reads, it also reads behind further items. Only the last item of a group is ever
changed, and the front is not that item. -/
theorem read? (h : g.WithFront front g') (found : g.read? symbol = some next) :
    ∃ next', g'.read? symbol = some next' ∧ next.WithFront front next' := by
  have settings := h.settings_eq
  unfold Group.read? at found ⊢
  cases symbol with
  | openGroup | openScope | closeGroup => cases found
  | escape e =>
    obtain ⟨r, valid, rfl⟩ := Option.map_eq_some_iff.1 found
    exact ⟨_, by rw [settings]; exact Option.map_eq_some_iff.2 ⟨r, valid, rfl⟩, h.add _⟩
  | set term =>
    obtain ⟨s, valid, rfl⟩ := Option.map_eq_some_iff.1 found
    exact ⟨_, by rw [settings]; exact Option.map_eq_some_iff.2 ⟨s, valid, rfl⟩, h.add _⟩
  | dot =>
    obtain ⟨r, valid, rfl⟩ := Option.map_eq_some_iff.1 found
    exact ⟨_, by rw [settings]; exact Option.map_eq_some_iff.2 ⟨r, valid, rfl⟩, h.add _⟩
  | caret | dollar =>
    cases found
    exact ⟨_, by rw [settings], h.add _⟩
  | bar =>
    cases found
    exact ⟨_, rfl, h.nextAlternative⟩
  | count => exact h.repeatLast? found
  | setting change =>
    cases found
    exact ⟨_, by rw [settings], (h.withSettings _).add _⟩

end Group.WithFront

/-! ### Groups around -/

/-- The open groups inside the group `around`, and the same groups without it, where items stand in
front of everything in the outermost one. -/
inductive Inside (front : List Nested) (around : Group) :
    List Group → Group → List Group → Group → Prop
  /-- No further group is open. -/
  | outermost {g g' : Group} (h : g.WithFront front g') : Inside front around [around] g [] g'
  /-- The groups further inside are the same. -/
  | inner (above : List Group) (top : Group) {g g' : Group} (h : g.WithFront front g') :
    Inside front around (above ++ [g, around]) top (above ++ [g']) top

namespace Inside

variable {front : List Nested} {around next : Group} {symbol : Symbol}

theorem settings_eq (h : Inside front around outer g outer' g') : g'.settings = g.settings := by
  cases h with
  | outermost h => exact h.settings_eq
  | inner => rfl

theorem push (h : Inside front around outer g outer' g') (top : Group) :
    Inside front around (g :: outer) top (g' :: outer') top := by
  cases h with
  | outermost h => exact .inner [] top h
  | inner above _ h => exact .inner (g :: above) top h

theorem read? (h : Inside front around outer g outer' g') (found : g.read? symbol = some next) :
    ∃ next', g'.read? symbol = some next' ∧ Inside front around outer next outer' next' := by
  cases h with
  | outermost h =>
    obtain ⟨next', same, h⟩ := h.read? found
    exact ⟨next', same, .outermost h⟩
  | inner above _ h => exact ⟨next, found, .inner above next h⟩

/-- Symbols that are read in both leave groups that are the same but for the front. What follows on
either side may differ. -/
theorem read {left right : List Symbol} {r r' : Nested}
    (h : Inside front around outer g outer' g')
    (found : readSymbols? outer names kept g (symbols ++ left) = some r)
    (found' : readSymbols? outer' names kept g' (symbols ++ right) = some r') :
    ∃ outer outer' names kept g g', Inside front around outer g outer' g' ∧
      readSymbols? outer names kept g left = some r ∧
      readSymbols? outer' names kept g' right = some r' := by
  induction symbols generalizing outer outer' names kept g g' with
  | nil => exact ⟨outer, outer', names, kept, g, g', h, found, found'⟩
  | cons symbol symbols ih =>
    have settings := h.settings_eq
    cases symbol with
    | openGroup name =>
      simp only [List.cons_append, readSymbols?] at found found'
      split at found
      · cases found
      · next new =>
        rw [if_neg new, settings] at found'
        exact ih (h.push _) found found'
    | openScope change =>
      simp only [List.cons_append, readSymbols?] at found found'
      rw [settings] at found'
      exact ih (h.push _) found found'
    | closeGroup =>
      simp only [List.cons_append, readSymbols?] at found found'
      cases h with
      | outermost =>
        -- Outside, there is no group left to close.
        cases found'
      | inner above _ h =>
        cases above with
        | nil => exact ih (.outermost (h.add _)) found found'
        | cons parent above => exact ih (.inner above _ h) found found'
    | _ =>
      simp only [List.cons_append, readSymbols?] at found found'
      split at found
      · next next same =>
        obtain ⟨next', same', h⟩ := h.read? same
        rw [same'] at found'
        exact ih h found found'
      · cases found

end Inside

end StaticWiring.Regex
