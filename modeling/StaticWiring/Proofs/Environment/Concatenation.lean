import StaticWiring.Proofs.Environment.Evaluation

/-!
# Texts with placeholders that are joined

A text is expanded from its start on: what precedes the first placeholder is kept, the placeholder
is replaced, and the text behind its closing brace is expanded in turn. What is joined to the end of
a text is thus met last. It changes nothing before it, unless a placeholder of the text is not
closed, which it may then close, or an opening stands across the seam. Where neither is so, the
joined text stands for what both texts stand for, joined.

A text that cannot be resolved fails at a placeholder that is closed, and fails at the same one
whatever is joined to it. The report carries the joined text.

## Main definitions

* `Placeholder.AllClosed` — every placeholder that is met from the start of a text on is closed.
* `Placeholder.SplitsOpening` — an opening begins in one text and ends in the next one.
* `Environment.substitute` — what a placeholder is replaced by.

## Main results

* `Environment.expand_append` — joined texts are expanded one by one.
* `Environment.expand_append_of_error` — a text fails as it does alone.
* `Environment.resolve_append` — when joined texts are resolved, and what is reported otherwise.
-/

namespace StaticWiring

namespace Placeholder

variable {cs cs' before key after : List Char} {default : Option (List Char)}

/-! ### Joined texts -/

/-- Every opening that is met on the way through the text, which goes on behind the brace that
closes a placeholder, has its closing brace in the text. -/
inductive AllClosed : List Char → Prop
  /-- No opening is met. -/
  | literal {cs : List Char} (plain : ¬ opening <:+: cs) : AllClosed cs
  /-- The first placeholder is closed, and so are all that are met behind it. -/
  | placeholder {cs before key after : List Char} {default : Option (List Char)}
    (found : IsFirst cs before key default after) (further : AllClosed after) : AllClosed cs

/-- The dollar sign of an opening ends a text, and its brace begins the next one. Joined, the two
have an opening that neither has alone. -/
def SplitsOpening (cs cs' : List Char) : Prop :=
  cs.getLast? = some '$' ∧ cs'.head? = some '\x7b'

/-- The first opening is that of the second text, if the first one has none. None may stand across
the seam, where it would be found first. -/
theorem findOpen_append_of_plain (plain : ¬ opening <:+: cs) (apart : ¬ SplitsOpening cs cs') :
    findOpen (cs ++ cs') =
      (findOpen cs').map fun (before, inner) => (cs ++ before, inner) := by
  induction cs with
  | nil => simp
  | cons c cs ih =>
    rw [List.infix_cons_iff, not_or] at plain
    have starts : ¬ opening <+: c :: (cs ++ cs') := by
      intro starts
      obtain ⟨rest, text⟩ := opening_prefix_iff.1 starts
      obtain ⟨rfl, tail⟩ := List.cons.inj text
      cases cs with
      | nil => exact apart ⟨rfl, congrArg List.head? tail⟩
      | cons d cs =>
        obtain ⟨rfl, -⟩ := List.cons.inj tail
        exact plain.1 (opening_prefix_iff.2 ⟨cs, rfl⟩)
    have apart' : ¬ SplitsOpening cs cs' := by
      rintro ⟨last, brace⟩
      exact apart ⟨by rw [List.getLast?_cons, last, Option.getD_some], brace⟩
    rw [List.cons_append, findOpen_cons starts, ih plain.2 apart', Option.map_map]
    rfl

/-- The first placeholder stays the first one, with more text behind it. Its closing brace is in the
text already, so that nothing behind is looked at. -/
theorem IsFirst.append (h : IsFirst cs before key default after) (cs' : List Char) :
    IsFirst (cs ++ cs') before key default (after ++ cs') := by
  obtain ⟨first, body, rfl, nested, split⟩ := h
  exact ⟨first, body, by simp, nested, split⟩

/-- The text behind a placeholder ends as the whole text does. The condition on the seam is thus
handed on to the rest. -/
theorem IsFirst.splitsOpening (h : IsFirst cs before key default after)
    (splits : SplitsOpening after cs') : SplitsOpening cs cs' := by
  obtain ⟨-, body, rfl, -⟩ := h
  obtain ⟨last, brace⟩ := splits
  exact ⟨by simp [List.getLast?_append, List.getLast?_cons, last], brace⟩

end Placeholder

namespace Environment

open Placeholder

variable {env : Environment} {whole : String} {depth : Nat}
  {cs cs' before key after : List Char} {default : Option (List Char)} {e : PlaceholderError}

/-! ### Expansion of joined texts -/

/-- What a placeholder at a nesting level is replaced by. The key is expanded first, and what it
names is expanded in turn. -/
def substitute (env : Environment) (whole : String) (depth : Nat) (key : List Char)
    (default : Option (List Char)) : Except PlaceholderError (List Char) :=
  match env.expand whole (depth + 1) key with
  | .error e => .error e
  | .ok name =>
    if maxDepth ≤ depth then .error ⟨String.ofList name, whole⟩
    else
      match env.replacement? name default with
      | none => .error ⟨String.ofList name, whole⟩
      | some text => env.expand whole (depth + 1) text

theorem expand_eq_substitute (env : Environment) (whole : String) (depth : Nat)
    (found : IsFirst cs before key default after) :
    env.expand whole depth cs =
      (env.substitute whole depth key default).bind fun value =>
        (env.expand whole depth after).map (before ++ value ++ ·) := by
  rw [expand_of_isFirst env whole depth found, substitute]
  cases env.expand whole (depth + 1) key with
  | error e => rfl
  | ok name =>
    by_cases above : maxDepth ≤ depth
    · simp only [if_pos above]
      rfl
    · simp only [if_neg above]
      cases env.replacement? name default with
      | none => rfl
      | some text =>
        dsimp only
        cases env.expand whole (depth + 1) text with
        | error e => rfl
        | ok value => cases env.expand whole depth after <;> rfl

theorem expand_append_of_plain (env : Environment) (whole : String) (depth : Nat)
    (plain : ¬ opening <:+: cs) (apart : ¬ SplitsOpening cs cs') :
    env.expand whole depth (cs ++ cs') = (env.expand whole depth cs').map (cs ++ ·) := by
  have opened := findOpen_append_of_plain plain apart
  obtain plain' | kept | ⟨before, key, default, after, found⟩ := first_cases cs'
  · rw [findOpen_eq_none_iff.2 plain'] at opened
    have second := expand_of_not_infix env whole depth plain'
    have joined := expand_of_not_infix env whole depth (findOpen_eq_none_iff.1 opened)
    rw [second, joined]
    rfl
  · obtain ⟨before, inner, opened', unclosed⟩ := isUnclosed_iff.1 kept
    rw [opened'] at opened
    have joined := isUnclosed_iff.2 ⟨_, inner, opened, unclosed⟩
    rw [expand_of_isUnclosed env whole depth kept, expand_of_isUnclosed env whole depth joined]
    rfl
  · obtain ⟨inner, body, opened', closed, split⟩ := isFirst_iff.1 found
    rw [opened'] at opened
    have joined := isFirst_iff.2 ⟨_, body, opened, closed, split⟩
    rw [expand_eq_substitute env whole depth found, expand_eq_substitute env whole depth joined]
    cases env.substitute whole depth key default with
    | error e => rfl
    | ok value => cases env.expand whole depth after <;> simp [Except.bind, Except.map]

/-- Joined texts are expanded one by one. The induction is along the closed placeholders of the
first text. -/
theorem expand_append (env : Environment) (whole : String) (depth : Nat) (closed : AllClosed cs)
    (apart : ¬ SplitsOpening cs cs') :
    env.expand whole depth (cs ++ cs') =
      (env.expand whole depth cs).bind fun first =>
        (env.expand whole depth cs').map (first ++ ·) := by
  induction closed with
  | literal plain =>
    rw [expand_append_of_plain env whole depth plain apart,
      expand_of_not_infix env whole depth plain]
    rfl
  | placeholder found _ ih =>
    have apart' := fun splits => apart (found.splitsOpening splits)
    rw [expand_eq_substitute env whole depth (found.append cs'),
      expand_eq_substitute env whole depth found, ih apart']
    cases env.substitute whole depth _ _ with
    | error e => rfl
    | ok value =>
      cases env.expand whole depth _ with
      | error e => rfl
      | ok rest => cases env.expand whole depth cs' <;> simp [Except.bind, Except.map]

/-- A text that cannot be expanded fails as it does alone: at a placeholder that is closed. What is
joined behind is not reached. -/
theorem expand_append_of_error (failed : env.expand whole depth cs = .error e)
    (cs' : List Char) : env.expand whole depth (cs ++ cs') = .error e := by
  induction length : cs.length using Nat.strong_induction_on generalizing cs with
  | _ n ih =>
    obtain plain | kept | ⟨before, key, default, after, found⟩ := first_cases cs
    · have expanded := expand_of_not_infix env whole depth plain
      cases expanded.symm.trans failed
    · have expanded := expand_of_isUnclosed env whole depth kept
      cases expanded.symm.trans failed
    · rw [expand_eq_substitute env whole depth found] at failed
      rw [expand_eq_substitute env whole depth (found.append cs')]
      cases substituted : env.substitute whole depth key default with
      | error e => rwa [substituted] at failed
      | ok value =>
        rw [substituted] at failed
        cases expanded : env.expand whole depth after with
        | ok rest =>
          rw [expanded] at failed
          cases failed
        | error e' =>
          rw [expanded] at failed
          cases failed
          rw [ih after.length (length ▸ found.length_lt) expanded rfl]
          rfl

/-! ### The text that is reported -/

/-- Only the report of a failure depends on the whole text. Expansion itself does not look at the
whole text. -/
theorem expand_eq_mapError (whole' : String) :
    env.expand whole' depth cs =
      (env.expand whole depth cs).mapError fun e => ⟨e.placeholder, whole'⟩ := by
  fun_induction expand env whole depth cs
  case case1 opened => exact expand_of_not_infix env whole' _ (findOpen_eq_none_iff.1 opened)
  case case2 opened closed =>
    exact expand_of_isUnclosed env whole' _ (isUnclosed_iff.2 ⟨_, _, opened, closed⟩)
  case case3 | case4 | case5 | case6 | case7 | case8 =>
    -- The first placeholder is the same one, and so is what comes of each of its parts.
    rw [expand_of_isFirst env whole' _ (isFirst_iff.2 ⟨_, _, ‹_›, ‹_›, rfl⟩)]
    simp only [*, Except.mapError, if_true, if_false]

/-- A text that is resolved alone and as a part of another one fails at the same placeholder. The
reports differ in the text that they carry. -/
theorem exists_expand_eq {text : String} (whole' : String) :
    (∃ result, env.resolve text = .ok (String.ofList result) ∧
        env.expand whole' 0 text.toList = .ok result) ∨
      ∃ e, env.resolve text = .error e ∧
        env.expand whole' 0 text.toList = .error ⟨e.placeholder, whole'⟩ := by
  have expanded := @expand_eq_mapError env text 0 text.toList whole'
  rw [resolve]
  cases alone : env.expand text 0 text.toList with
  | ok result => exact .inl ⟨result, rfl, by rw [expanded, alone]; rfl⟩
  | error e => exact .inr ⟨e, rfl, by rw [expanded, alone]; rfl⟩

/-- A text that cannot be resolved fails at the same placeholder whatever is joined to it. Where
every placeholder of the first text is closed and no opening stands across the seam, the joined text
is resolved just if both texts are, to both results joined; if the second one alone fails, the
joined text fails at the same placeholder. Each report carries the whole text. -/
theorem resolve_append (env : Environment) (text text' : String) :
    (∀ e, env.resolve text = .error e →
      env.resolve (text ++ text') = .error ⟨e.placeholder, text ++ text'⟩) ∧
    (AllClosed text.toList → ¬ SplitsOpening text.toList text'.toList →
      (∀ result, env.resolve (text ++ text') = .ok result ↔
        ∃ first second, env.resolve text = .ok first ∧ env.resolve text' = .ok second ∧
          result = first ++ second) ∧
      ∀ first e, env.resolve text = .ok first → env.resolve text' = .error e →
        env.resolve (text ++ text') = .error ⟨e.placeholder, text ++ text'⟩) := by
  have joined : env.resolve (text ++ text') =
      (env.expand (text ++ text') 0 (text.toList ++ text'.toList)).map String.ofList := by
    rw [resolve, String.toList_append]
  -- Only the errors carry the whole text, so each part is compared with its expansion within it.
  rw [joined]
  constructor
  · intro e failed
    obtain ⟨_, alone, -⟩ | ⟨_, alone, within⟩ := @exists_expand_eq env text (text ++ text')
    · cases alone.symm.trans failed
    · cases alone.symm.trans failed
      rw [expand_append_of_error within]
      rfl
  · intro closed apart
    rw [expand_append env _ 0 closed apart]
    obtain ⟨first, alone, within⟩ | ⟨e, alone, within⟩ :=
      @exists_expand_eq env text (text ++ text')
    · obtain ⟨second, alone', within'⟩ | ⟨e', alone', within'⟩ :=
        @exists_expand_eq env text' (text ++ text')
      · simp [alone, alone', within, within', Except.bind, Except.map, eq_comm]
      · simp [alone, alone', within, within', Except.bind, Except.map]
    · simp [alone, within, Except.bind, Except.map]

end Environment

/-! ### An address that lacks its port -/

namespace Sample

open Environment Placeholder

/-- The host of each stage is a property, and so is the stage. The key of the host is thus only
known once the stage is. -/
def stagedEnvironment : Environment :=
  ofSources [⟨"staged", [("stage", "test"), ("host.test", "localhost")]⟩]

/-- The host of the stage, in front of a port. It has a placeholder inside another one, and goes on
behind both. -/
def hostText : String :=
  "$\x7bhost.$\x7bstage\x7d\x7d:"

/-- A port that is no property. It fails alone and in every text that reaches it. -/
def portText : String :=
  "$\x7bport\x7d"

theorem isFirst_hostText :
    IsFirst hostText.toList [] "host.$\x7bstage\x7d".toList none [':'] :=
  isFirst_iff.2 ⟨_, _, rfl, rfl, rfl⟩

theorem resolve_hostText : stagedEnvironment.resolve hostText = .ok "localhost:" := by
  have stage : IsFirst "host.$\x7bstage\x7d".toList "host.".toList "stage".toList none [] :=
    isFirst_iff.2 ⟨_, _, rfl, rfl, rfl⟩
  have named := Evaluates.property stage (by decide : 1 < maxDepth) (.literal (by decide))
    (by rfl : stagedEnvironment.get? "stage" = some "test") (.literal (by decide))
    (.literal (by decide))
  have evaluates := Evaluates.property isFirst_hostText (by decide) named
    (by rfl : stagedEnvironment.get? "host.test" = some "localhost") (.literal (by decide))
    (.literal (by decide))
  rw [resolve, (expand_eq_ok_iff _).2 evaluates]
  rfl

theorem resolve_portText : stagedEnvironment.resolve portText = .error ⟨"port", portText⟩ := by
  have port : IsFirst portText.toList [] "port".toList none [] :=
    isFirst_iff.2 ⟨_, _, rfl, rfl, rfl⟩
  have named := expand_of_not_infix stagedEnvironment portText 1
    (by decide : ¬ opening <:+: "port".toList)
  rw [resolve, expand_of_isFirst _ _ _ port, named]
  rfl

end Sample

open Sample Placeholder in
/-- Two hosts are resolved one after the other. Without the port, the address is not resolved
whichever part comes first. -/
theorem Environment.resolve_append_address :
    AllClosed hostText.toList ∧ (∀ text, ¬ SplitsOpening hostText.toList text) ∧
      stagedEnvironment.resolve (hostText ++ hostText) = .ok ("localhost:" ++ "localhost:") ∧
      stagedEnvironment.resolve (hostText ++ portText) =
        .error ⟨"port", hostText ++ portText⟩ ∧
      stagedEnvironment.resolve (portText ++ hostText) =
        .error ⟨"port", portText ++ hostText⟩ := by
  have closed : AllClosed hostText.toList :=
    .placeholder isFirst_hostText (.literal (by decide))
  have apart (text : List Char) : ¬ SplitsOpening hostText.toList text :=
    fun splits => absurd splits.1 (by decide)
  have before (text : String) :=
    (resolve_append stagedEnvironment hostText text).2 closed (apart text.toList)
  exact ⟨closed, apart, ((before hostText).1 _).2 ⟨_, _, resolve_hostText, resolve_hostText, rfl⟩,
    (before portText).2 _ _ resolve_hostText resolve_portText,
    (resolve_append stagedEnvironment portText hostText).1 _ resolve_portText⟩

end StaticWiring
