import StaticWiring.Proofs.Wiring.Supply

/-!
# Which executable is called

An executable is called if it is one of those that are tried, all its arguments are found, and every
other one that is tried either lacks an argument or has fewer parameters. Where several have their
arguments and equally many parameters, more than all others with arguments, the construction is
ambiguous; where none has its arguments, the longest one that was declared first says what is
missing. The order of declaration decides nothing else.

The executables can be tried in turn. What there is to remember then are the longest ones with
arguments so far, and the first failure of the longest ones without.

## Main definitions

* `Executable.IsPool` — the executables that are tried.
* `Assembly.Resolves`, `Assembly.leaders` — executables with arguments, and the longest of them.
* `Assembly.IsChoice` — what comes of the executables that are tried.
* `Assembly.Trial`, `Assembly.chooseInTurn` — the executables are tried in turn.

## Main results

* `Assembly.greatest_concat` — one more item.
* `Assembly.trial_eq` — what is remembered after some executables.
* `Assembly.choose_isChoice` — the choice.
-/

namespace StaticWiring

/-! ### The executables that are tried -/

/-- The executables of a list that are tried. The cases exclude each other, and one of them holds of
every list that is not empty. -/
inductive Executable.IsPool (es : List Executable) : List Executable → Prop
  /-- The only one. -/
  | only {e : Executable} (single : es = [e]) : IsPool es [e]
  /-- The only marked one of several. -/
  | preferred {e : Executable} (several : es.length ≠ 1) (single : es.filter (·.autowired) = [e]) :
    IsPool es [e]
  /-- All marked ones, if several are. -/
  | marked (several : es.length ≠ 1) (marks : 1 < (es.filter (·.autowired)).length) :
    IsPool es (es.filter (·.autowired))
  /-- All, if none is marked. -/
  | all (several : es.length ≠ 1) (unmarked : es.filter (·.autowired) = []) : IsPool es es

namespace Executable

variable {es es' pool : List Executable}

theorem pool_of_several (several : es.length ≠ 1) :
    Executable.pool es =
      if es.filter (·.autowired) = [] then es else es.filter (·.autowired) := by
  unfold Executable.pool
  split
  · exact absurd rfl several
  · split
    · next unmarked => rw [if_pos unmarked]
    · next marks => rw [if_neg marks]

theorem isPool_pool (es : List Executable) : IsPool es (Executable.pool es) := by
  by_cases several : es.length = 1
  · obtain ⟨e, rfl⟩ := List.length_eq_one_iff.1 several
    exact .only rfl
  · rw [pool_of_several several]
    split
    · next unmarked => exact .all several unmarked
    · next marks =>
      have positive : 0 < (es.filter (·.autowired)).length := List.length_pos_iff.2 marks
      rcases Nat.lt_or_ge 1 (es.filter (·.autowired)).length with more | less
      · exact .marked several more
      · obtain ⟨e, single⟩ := List.length_eq_one_iff.1 (Nat.le_antisymm less positive)
        rw [single]
        exact .preferred several single

theorem IsPool.eq_pool (h : IsPool es pool) : pool = Executable.pool es := by
  cases h with
  | only single =>
    rw [single]
    rfl
  | preferred several single =>
    rw [pool_of_several several, single, if_neg (List.cons_ne_nil _ _)]
  | marked several marks =>
    rw [pool_of_several several, if_neg (List.length_pos_iff.1 (Nat.zero_lt_of_lt marks))]
  | all several unmarked => rw [pool_of_several several, if_pos unmarked]

theorem pool_ne_nil (nonempty : es ≠ []) : Executable.pool es ≠ [] := by
  unfold Executable.pool
  split
  · exact List.cons_ne_nil _ _
  · split
    · exact nonempty
    · next marks => exact marks

theorem pool_perm (perm : es.Perm es') : (Executable.pool es).Perm (Executable.pool es') := by
  by_cases several : es.length = 1
  · obtain ⟨e, rfl⟩ := List.length_eq_one_iff.1 several
    rw [List.singleton_perm.1 perm]
  · rw [pool_of_several several, pool_of_several (perm.length_eq ▸ several)]
    have marks := perm.filter (·.autowired)
    by_cases unmarked : es.filter (·.autowired) = []
    · rw [if_pos unmarked, if_pos (List.nil_perm.1 (unmarked ▸ marks))]
      exact perm
    · have marked : es'.filter (·.autowired) ≠ [] :=
        fun none => unmarked (List.perm_nil.1 (none ▸ marks))
      rw [if_neg unmarked, if_neg marked]
      exact marks

end Executable

namespace Assembly

/-! ### The greatest items -/

section

variable {α : Type} {key : α → Nat} {xs ys : List α} {x y : α}

theorem mem_greatest : x ∈ greatest key xs ↔ x ∈ xs ∧ ∀ y ∈ xs, key y ≤ key x := by
  simp [greatest]

/-- The greatest items have the key of one of them. The order of the items is kept. -/
theorem greatest_eq_filter (hx : x ∈ greatest key xs) :
    greatest key xs = xs.filter fun y => key y = key x := by
  obtain ⟨mem, most⟩ := mem_greatest.1 hx
  refine List.filter_congr fun y hy => ?_
  rw [Bool.eq_iff_iff, List.all_eq_true, decide_eq_true_iff]
  simp only [decide_eq_true_iff]
  exact ⟨fun h => Nat.le_antisymm (most y hy) (h x mem), fun same z hz => same ▸ most z hz⟩

/-- The greatest items once there is one more, which is less than they are, as great, or greater. It
is the step of the loop that keeps the best ones. -/
theorem greatest_concat (hy : y ∈ greatest key xs) (x : α) :
    greatest key (xs ++ [x]) =
      if key x < key y then greatest key xs
      else if key x = key y then greatest key xs ++ [x]
      else [x] := by
  obtain ⟨mem, most⟩ := mem_greatest.1 hy
  -- Either `x` or `y` is one of the greatest items now, which tells the others.
  rcases Nat.lt_or_ge (key y) (key x) with greater | notGreater
  · have hx : x ∈ greatest key (xs ++ [x]) := by
      refine mem_greatest.2 ⟨List.mem_concat_self, List.forall_mem_append.2 ⟨?_, by simp⟩⟩
      exact fun z hz => (most z hz).trans greater.le
    have displaced : xs.filter (fun z => key z = key x) = [] := by
      refine List.filter_eq_nil_iff.2 fun z hz => ?_
      have := most z hz
      rw [decide_eq_true_iff]
      omega
    rw [if_neg (by omega), if_neg (by omega), greatest_eq_filter hx, List.filter_append, displaced]
    simp
  · have hy' : y ∈ greatest key (xs ++ [x]) := by
      refine mem_greatest.2 ⟨List.mem_append_left _ mem, List.forall_mem_append.2 ⟨most, ?_⟩⟩
      simpa using notGreater
    rw [greatest_eq_filter hy', greatest_eq_filter hy, List.filter_append]
    by_cases less : key x < key y
    · simp [less, less.ne]
    · have same : key x = key y := by omega
      simp [same]

theorem greatest_ne_nil (nonempty : xs ≠ []) : greatest key xs ≠ [] := by
  induction xs using List.reverseRecOn with
  | nil => exact absurd rfl nonempty
  | append_singleton xs x ih =>
    by_cases first : xs = []
    · simp [first, greatest]
    · obtain ⟨y, hy⟩ := List.exists_mem_of_ne_nil _ (ih first)
      rw [greatest_concat hy]
      split
      · exact ih first
      · split
        · exact List.concat_ne_nil _ _
        · exact List.cons_ne_nil _ _

theorem map_greatest {β : Type} (key : α → Nat) (f : β → α) (ys : List β) :
    (greatest (key ∘ f) ys).map f = greatest key (ys.map f) := by
  simp only [greatest, List.filter_map, List.all_map]
  rfl

theorem greatest_perm (perm : xs.Perm ys) : (greatest key xs).Perm (greatest key ys) := by
  have same (x : α) : (ys.all fun y => key y ≤ key x) = xs.all fun y => key y ≤ key x :=
    perm.symm.all_eq
  simp only [greatest, same]
  exact perm.filter _

/-- The first one of the greatest items is greater than those before it. Those behind it may be as
great. -/
theorem greatest_eq_cons_iff : greatest key xs = x :: ys ↔
    ∃ before after, xs = before ++ x :: after ∧ (∀ y ∈ before, key y < key x) ∧
      (∀ y ∈ after, key y ≤ key x) ∧ ys = after.filter fun y => key y = key x := by
  constructor
  · intro h
    have hx : x ∈ greatest key xs := h ▸ List.mem_cons_self
    rw [greatest_eq_filter hx] at h
    obtain ⟨before, after, rfl, others, -, rest⟩ := List.filter_eq_cons_iff.1 h
    have most := (mem_greatest.1 hx).2
    refine ⟨before, after, rfl, fun y hy => ?_, fun y hy => most y (by simp [hy]), rest.symm⟩
    exact Nat.lt_of_le_of_ne (most y (by simp [hy])) (by simpa using others y hy)
  · rintro ⟨before, after, rfl, less, most, rfl⟩
    have hx : x ∈ greatest key (before ++ x :: after) := by
      refine mem_greatest.2 ⟨List.mem_append_right _ List.mem_cons_self, ?_⟩
      refine List.forall_mem_append.2 ⟨fun y hy => (less y hy).le, ?_⟩
      exact List.forall_mem_cons.2 ⟨le_rfl, most⟩
    have displaced : before.filter (fun y => key y = key x) = [] :=
      List.filter_eq_nil_iff.2 fun y hy => by simpa using (less y hy).ne
    rw [greatest_eq_filter hx, List.filter_append, displaced]
    simp

/-- One item alone is the greatest one if all others are less. It stands somewhere in the list, and
nothing is as great. -/
theorem greatest_eq_singleton_iff : greatest key xs = [x] ↔
    ∃ before after, xs = before ++ x :: after ∧ ∀ y ∈ before ++ after, key y < key x := by
  rw [greatest_eq_cons_iff]
  refine exists₂_congr fun before after => and_congr_right fun _ => ?_
  rw [eq_comm, List.filter_eq_nil_iff, List.forall_mem_append, and_congr_right_iff]
  intro _
  rw [← forall₂_and]
  refine forall₂_congr fun y _ => ?_
  rw [decide_eq_true_iff]
  exact Nat.lt_iff_le_and_ne.symm

end

/-! ### Executables with and without arguments -/

variable {a : Assembly} {self type kind : String} {e e' : Executable} {values : List Value}
  {fault : GenerationError} {es es' pool : List Executable}

/-- All arguments of the executable are found. Which values they are does not matter. -/
def Resolves (a : Assembly) (self kind : String) (e : Executable) : Prop :=
  ∃ values, a.arguments self kind e = .ok values

theorem isOk_iff : (a.arguments self kind e).isOk = true ↔ a.Resolves self kind e := by
  unfold Resolves
  cases a.arguments self kind e <;> simp [Except.isOk, Except.toBool]

instance : DecidablePred (a.Resolves self kind) :=
  fun _ => decidable_of_iff _ isOk_iff

/-- The longest ones of the executables with arguments, in the order of declaration. There is none
if no executable has its arguments. -/
def leaders (a : Assembly) (self kind : String) (pool : List Executable) : List Executable :=
  greatest (·.parameters.length) (pool.filter (a.Resolves self kind ·))

theorem argumentsFrom_eq_error {signature : String} {i : Nat} {ps : List Parameter}
    (h : a.argumentsFrom self kind signature i ps = .error fault) :
    ∃ member required cause, fault = .unsatisfied self member required cause := by
  induction ps generalizing i with
  | nil => cases h
  | cons p ps ih =>
    simp only [argumentsFrom] at h
    split at h
    · cases h
      exact ⟨_, _, _, rfl⟩
    · split at h
      · next rest =>
        cases h
        exact ih rest
      · cases h

/-- An executable without arguments has a parameter without value. It is the only kind of failure at
this place. -/
theorem arguments_eq_error (h : a.arguments self kind e = .error fault) :
    ∃ member required cause, fault = .unsatisfied self member required cause :=
  argumentsFrom_eq_error h

theorem toOption_map_eq_some : (a.arguments self kind e).toOption.map (e, ·) = some (e', values) ↔
    e = e' ∧ a.arguments self kind e = .ok values := by
  cases a.arguments self kind e <;> simp [Except.toOption]

theorem mem_callable :
    (e, values) ∈ a.callable self kind es ↔ e ∈ es ∧ a.arguments self kind e = .ok values := by
  simp only [callable, List.mem_filterMap, toOption_map_eq_some]
  constructor
  · rintro ⟨_, mem, rfl, found⟩
    exact ⟨mem, found⟩
  · rintro ⟨mem, found⟩
    exact ⟨e, mem, rfl, found⟩

theorem callable_append (es es' : List Executable) : a.callable self kind (es ++ es') =
    a.callable self kind es ++ a.callable self kind es' :=
  List.filterMap_append

theorem failures_append (es es' : List Executable) : a.failures self kind (es ++ es') =
    a.failures self kind es ++ a.failures self kind es' :=
  List.filterMap_append

/-- The failure of an executable, if it lacks an argument. The failure is kept with the executable,
whose length decides. -/
def failure? (a : Assembly) (self kind : String) (e : Executable) :
    Option (Executable × GenerationError) :=
  match a.arguments self kind e with
  | .ok _ => none
  | .error fault => some (e, fault)

theorem failures_eq_filterMap (es : List Executable) :
    a.failures self kind es = es.filterMap (a.failure? self kind) :=
  rfl

theorem failure?_eq_some : a.failure? self kind e = some (e', fault) ↔
    e = e' ∧ a.arguments self kind e = .error fault := by
  unfold failure?
  cases a.arguments self kind e <;> simp

theorem mem_failures :
    (e, fault) ∈ a.failures self kind es ↔ e ∈ es ∧ a.arguments self kind e = .error fault := by
  simp only [failures_eq_filterMap, List.mem_filterMap, failure?_eq_some]
  constructor
  · rintro ⟨_, mem, rfl, found⟩
    exact ⟨mem, found⟩
  · rintro ⟨mem, found⟩
    exact ⟨e, mem, rfl, found⟩

theorem exists_fault_of_callable_eq_nil (none : a.callable self kind es = []) (h : e ∈ es) :
    ∃ fault, a.arguments self kind e = .error fault := by
  cases found : a.arguments self kind e with
  | error fault => exact ⟨fault, rfl⟩
  | ok values => exact absurd none (List.ne_nil_of_mem (mem_callable.2 ⟨h, found⟩))

/-- One executable is the longest with arguments if all others lack an argument or are shorter. It
is the one that is called. -/
theorem greatest_callable_eq_singleton_iff :
    greatest (·.1.parameters.length) (a.callable self kind pool) = [(e, values)] ↔
      ∃ before after, pool = before ++ e :: after ∧ a.arguments self kind e = .ok values ∧
        ∀ e' ∈ before ++ after,
          a.Resolves self kind e' → e'.parameters.length < e.parameters.length := by
  rw [greatest_eq_singleton_iff]
  constructor
  · rintro ⟨cs, ds, split, less⟩
    obtain ⟨before, e', after, rfl, here, rfl, rfl⟩ := Lists.exists_split_of_filterMap split
    obtain ⟨rfl, found⟩ := toOption_map_eq_some.1 here
    refine ⟨before, after, rfl, found, fun other mem ⟨values', found'⟩ => ?_⟩
    refine less (other, values') ?_
    rw [← List.filterMap_append]
    exact mem_callable.2 ⟨mem, found'⟩
  · rintro ⟨before, after, rfl, found, less⟩
    refine ⟨a.callable self kind before, a.callable self kind after, ?_, ?_⟩
    · rw [callable_append]
      simp [callable, found, Except.toOption]
    · rintro ⟨e', values'⟩ mem
      rw [← callable_append] at mem
      obtain ⟨mem, found'⟩ := mem_callable.1 mem
      exact less e' mem ⟨values', found'⟩

theorem map_callable (es : List Executable) :
    (a.callable self kind es).map (·.1) = es.filter (a.Resolves self kind ·) := by
  rw [callable, List.map_filterMap, ← List.filterMap_eq_filter]
  refine List.filterMap_congr fun e _ => ?_
  cases found : a.arguments self kind e <;>
    simp [Resolves, found, Option.guard, Except.toOption]

/-- The longest executables with arguments are the leaders. The values are left out in the
comparison. -/
theorem map_greatest_callable (pool : List Executable) :
    (greatest (·.1.parameters.length) (a.callable self kind pool)).map (·.1) =
      a.leaders self kind pool := by
  rw [leaders, ← map_callable, ← map_greatest]
  rfl

/-! ### One executable after the other -/

/-- What is remembered while executables are tried. It is the state of the loop over the
executables. -/
structure Trial where
  /-- The longest ones so far that have their arguments. -/
  best : List (Executable × List Value) := []
  /-- The first failure of the longest ones so far that lack an argument, with their number of
  parameters. -/
  failure? : Option (Nat × GenerationError) := none

namespace Trial

/-- An executable has its arguments. It takes over if it is longer than the best ones, and joins
them if it is as long. -/
def succeed (t : Trial) (e : Executable) (values : List Value) : Trial :=
  match t.best with
  | [] => { t with best := [(e, values)] }
  | leader :: _ =>
    if e.parameters.length < leader.1.parameters.length then t
    else if e.parameters.length = leader.1.parameters.length then
      { t with best := t.best ++ [(e, values)] }
    else { t with best := [(e, values)] }

/-- An executable lacks an argument. A failure of an executable that is not longer is forgotten. -/
def fail (t : Trial) (e : Executable) (fault : GenerationError) : Trial :=
  if t.failure?.all (·.1 < e.parameters.length) then
    { t with failure? := some (e.parameters.length, fault) }
  else t

/-- One more executable is tried. Its arguments are looked for once. -/
def next (a : Assembly) (self kind : String) (t : Trial) (e : Executable) : Trial :=
  match a.arguments self kind e with
  | .ok values => t.succeed e values
  | .error fault => t.fail e fault

/-- What comes of it once there is no other executable. A failure only counts if none was called. -/
def outcome (self type : String) (t : Trial) : Except GenerationError (Executable × List Value) :=
  match t.best with
  | [] => .error ((t.failure?.map (·.2)).getD (.ambiguousConstruction self type []))
  | [chosen] => .ok chosen
  | tied => .error (.ambiguousConstruction self type (tied.map (·.1.signature)))

end Trial

/-- What is remembered once the executables are tried one after the other. Every executable is
tried, even behind one that has its arguments. -/
def trial (a : Assembly) (self kind : String) (es : List Executable) : Trial :=
  es.foldl (Trial.next a self kind) {}

/-- The only executable is called, or the only marked one; otherwise the marked ones are tried one
after the other, or all if there are none. -/
def chooseInTurn (a : Assembly) (self type kind : String) (es : List Executable) :
    Except GenerationError (Executable × List Value) :=
  match es with
  | [e] => (a.arguments self kind e).map (e, ·)
  | es =>
    match es.filter (·.autowired) with
    | [e] => (a.arguments self kind e).map (e, ·)
    | [] => (a.trial self kind es).outcome self type
    | marked => (a.trial self kind marked).outcome self type

/-- The first failure of the longest executables, with their number of parameters. It is the failure
that is reported. -/
def longestFailure (failures : List (Executable × GenerationError)) :
    Option (Nat × GenerationError) :=
  (greatest (·.1.parameters.length) failures).head?.map fun c => (c.1.parameters.length, c.2)

/-- One more executable with arguments. The failures are not touched. -/
theorem succeed_greatest (xs : List (Executable × List Value))
    (failure? : Option (Nat × GenerationError)) (e : Executable) (values : List Value) :
    Trial.succeed ⟨greatest (·.1.parameters.length) xs, failure?⟩ e values =
      ⟨greatest (·.1.parameters.length) (xs ++ [(e, values)]), failure?⟩ := by
  unfold Trial.succeed
  by_cases empty : xs = []
  · simp [empty, greatest]
  · obtain ⟨leader, others, first⟩ := List.exists_cons_of_ne_nil (greatest_ne_nil empty)
    have mem : leader ∈ greatest (·.1.parameters.length) xs := first ▸ List.mem_cons_self
    rw [greatest_concat mem, first]
    dsimp only
    split
    · rfl
    · split <;> rfl

/-- One more executable without arguments. The best ones are not touched. -/
theorem fail_longestFailure (best : List (Executable × List Value))
    (xs : List (Executable × GenerationError)) (e : Executable) (fault : GenerationError) :
    Trial.fail ⟨best, longestFailure xs⟩ e fault = ⟨best, longestFailure (xs ++ [(e, fault)])⟩ := by
  unfold Trial.fail
  by_cases empty : xs = []
  · simp [empty, longestFailure, greatest]
  · obtain ⟨leader, others, first⟩ := List.exists_cons_of_ne_nil (greatest_ne_nil empty)
    have mem : leader ∈ greatest (·.1.parameters.length) xs := first ▸ List.mem_cons_self
    rw [longestFailure, longestFailure, greatest_concat mem, first]
    rcases Nat.lt_trichotomy e.parameters.length leader.1.parameters.length with
      less | same | greater
    · simp [less, Nat.lt_asymm less]
    · simp [same]
    · simp [greater, Nat.lt_asymm greater, greater.ne']

/-- After some executables, the longest ones with arguments are remembered, and the first failure of
the longest ones without. -/
theorem trial_eq (a : Assembly) (self kind : String) (es : List Executable) :
    a.trial self kind es =
      ⟨greatest (·.1.parameters.length) (a.callable self kind es),
        longestFailure (a.failures self kind es)⟩ := by
  -- What is remembered is about the executables so far, so the last one is taken off.
  induction es using List.reverseRecOn with
  | nil => rfl
  | append_singleton es e ih =>
    rw [trial, List.foldl_concat, ← trial, ih, Trial.next, callable_append, failures_append]
    split
    · next values found =>
      rw [succeed_greatest]
      simp [callable, failures, found, Except.toOption]
    · next fault found =>
      rw [fail_longestFailure]
      simp [callable, failures, found, Except.toOption]

/-- What comes of the executables that are tried one after the other. The pool is chosen before, by
marks alone. -/
theorem choose_eq_outcome (a : Assembly) (self type kind : String) (es : List Executable) :
    a.choose self type kind es =
      (a.trial self kind (Executable.pool es)).outcome self type := by
  simp only [trial_eq, choose, Trial.outcome, longestFailure]
  split
  · next chosen => simp only [chosen]
  · next none =>
    simp only [none]
    split
    · next first => simp [first]
    · next noFailure => simp [noFailure]
  · next tied one several =>
    split
    · next none => exact absurd none several
    · next chosen => exact absurd chosen (one _)
    · rfl

theorem outcome_trial_singleton (a : Assembly) (self type kind : String) (e : Executable) :
    (a.trial self kind [e]).outcome self type = (a.arguments self kind e).map (e, ·) := by
  simp only [trial, List.foldl_cons, List.foldl_nil, Trial.next]
  split
  · next values found => simp [found, Trial.succeed, Trial.outcome, Except.map]
  · next fault found => simp [found, Trial.fail, Trial.outcome, Except.map]

/-- The executables that are tried in turn give the same result. The loop and the description of its
result thus agree. -/
theorem chooseInTurn_eq_choose (a : Assembly) (self type kind : String) (es : List Executable) :
    a.chooseInTurn self type kind es = a.choose self type kind es := by
  rw [choose_eq_outcome]
  unfold chooseInTurn
  split
  · exact (outcome_trial_singleton ..).symm
  · next several =>
    have several : es.length ≠ 1 := fun one =>
      have ⟨e, single⟩ := List.length_eq_one_iff.1 one
      several e single
    rw [Executable.pool_of_several several]
    split
    · next e single =>
      rw [single, if_neg (List.cons_ne_nil _ _), outcome_trial_singleton]
    · next unmarked => rw [if_pos unmarked]
    · next marks => rw [if_neg marks]

/-! ### The choice -/

/-- What comes of the executables that are tried. The three kinds of results exclude each other. -/
structure IsChoice (a : Assembly) (user type kind : String) (pool : List Executable)
    (result : Except GenerationError (Executable × List Value)) : Prop where
  /-- An executable is called with its arguments if all others lack an argument or have fewer
  parameters. -/
  ok_iff : ∀ e values, result = .ok (e, values) ↔
    ∃ before after, pool = before ++ e :: after ∧ a.arguments user kind e = .ok values ∧
      ∀ e' ∈ before ++ after,
        a.Resolves user kind e' → e'.parameters.length < e.parameters.length
  /-- Several longest executables with arguments are listed in the order of declaration. -/
  ambiguous_iff : ∀ definition typeName signatures,
    result = .error (.ambiguousConstruction definition typeName signatures) ↔
      1 < pool.length ∧ 1 < (a.leaders user kind pool).length ∧
        definition = user ∧ typeName = type ∧
          signatures = (a.leaders user kind pool).map (·.signature)
  /-- Otherwise the first one of the longest executables says what is missing. -/
  failed : (∀ chosen, result ≠ .ok chosen) →
    (∀ definition typeName signatures,
      result ≠ .error (.ambiguousConstruction definition typeName signatures)) →
    ∃ before e after fault, pool = before ++ e :: after ∧
      (∀ e' ∈ before, e'.parameters.length < e.parameters.length) ∧
      (∀ e' ∈ after, e'.parameters.length ≤ e.parameters.length) ∧
      a.arguments user kind e = .error fault ∧ result = .error fault

/-- Either one executable is the longest with arguments, or several are, or none has its arguments
and one is the first of the longest without. -/
inductive Decides (a : Assembly) (self type kind : String) (pool : List Executable) :
    Except GenerationError (Executable × List Value) → Prop
  | called {chosen : Executable × List Value}
      (longest : greatest (·.1.parameters.length) (a.callable self kind pool) = [chosen]) :
      Decides a self type kind pool (.ok chosen)
  | tied {tied : List (Executable × List Value)} (several : 1 < tied.length)
      (longest : greatest (·.1.parameters.length) (a.callable self kind pool) = tied) :
      Decides a self type kind pool
        (.error (.ambiguousConstruction self type (tied.map (·.1.signature))))
  | missing {e : Executable} {fault : GenerationError}
      {others : List (Executable × GenerationError)} (none : a.callable self kind pool = [])
      (longest : greatest (·.1.parameters.length) (a.failures self kind pool) =
        (e, fault) :: others) :
      Decides a self type kind pool (.error fault)

theorem decides_choose (type : String) (nonempty : es ≠ []) :
    a.Decides self type kind (Executable.pool es) (a.choose self type kind es) := by
  simp only [choose]
  split
  · next chosen longest => exact .called longest
  · next none =>
    have none : a.callable self kind (Executable.pool es) = [] :=
      by_contra fun some => greatest_ne_nil some none
    split
    · next longest => exact .missing none longest
    · next noFailure =>
      obtain ⟨e, he⟩ := List.exists_mem_of_ne_nil _ (Executable.pool_ne_nil nonempty)
      obtain ⟨fault, found⟩ := exists_fault_of_callable_eq_nil none he
      exact absurd noFailure (greatest_ne_nil (List.ne_nil_of_mem (mem_failures.2 ⟨he, found⟩)))
  · next one several =>
    refine .tied (Nat.lt_of_le_of_ne (List.length_pos_iff.2 several) fun single => ?_) rfl
    obtain ⟨chosen, longest⟩ := List.length_eq_one_iff.1 single.symm
    exact one chosen longest

variable {result : Except GenerationError (Executable × List Value)}

theorem Decides.eq_ok_iff (h : a.Decides self type kind pool result)
    (chosen : Executable × List Value) : result = .ok chosen ↔
      greatest (·.1.parameters.length) (a.callable self kind pool) = [chosen] := by
  cases h with
  | called longest => simp [longest]
  | @tied leaders several longest =>
    have other : leaders ≠ [chosen] := fun single => by simp [single] at several
    simp [longest, other]
  | missing none _ => simp [none, greatest]

theorem Decides.isChoice (h : a.Decides self type kind pool result) :
    a.IsChoice self type kind pool result where
  ok_iff e values := by rw [h.eq_ok_iff, greatest_callable_eq_singleton_iff]
  ambiguous_iff definition typeName signatures := by
    rw [← map_greatest_callable, List.length_map, List.map_map]
    cases h with
    | called longest => simp [longest]
    | tied several longest =>
      have more : 1 < pool.length := by
        rw [← longest] at several
        exact several.trans_le ((List.length_filter_le ..).trans (List.length_filterMap_le ..))
      subst longest
      simp [several, more, Function.comp_def, eq_comm]
    | missing none longest =>
      obtain ⟨-, found⟩ := mem_failures.1 (mem_of_mem_greatest (longest ▸ List.mem_cons_self))
      obtain ⟨member, required, cause, rfl⟩ := arguments_eq_error found
      simp [none, greatest]
  failed notCalled notTied := by
    cases h with
    | called => exact absurd rfl (notCalled _)
    | tied => exact absurd rfl (notTied _ _ _)
    | missing none longest =>
      -- The failure is the first of the longest ones, hence strictly longer than those before it.
      obtain ⟨cs, ds, split, less, most, -⟩ := greatest_eq_cons_iff.1 longest
      rw [failures_eq_filterMap] at split
      obtain ⟨before, e', after, rfl, here, rfl, rfl⟩ := Lists.exists_split_of_filterMap split
      obtain ⟨rfl, found⟩ := failure?_eq_some.1 here
      refine ⟨before, e', after, _, rfl, fun other mem => ?_, fun other mem => ?_, found, rfl⟩
      · obtain ⟨fault', found'⟩ := exists_fault_of_callable_eq_nil none
          (List.mem_append_left _ mem)
        exact less (other, fault') (mem_failures.2 ⟨mem, found'⟩)
      · obtain ⟨fault', found'⟩ := exists_fault_of_callable_eq_nil none
          (List.mem_append_right _ (List.mem_cons_of_mem _ mem))
        exact most (other, fault') (mem_failures.2 ⟨mem, found'⟩)

theorem toOption_eq_some {α : Type} {result : Except GenerationError α} {x : α} :
    result.toOption = some x ↔ result = .ok x := by
  cases result <;> simp [Except.toOption]

/-- The order of the executables decides neither whether one is called nor which one it is. Which
failure is reported may well depend on it. -/
theorem toOption_choose_of_perm (perm : es.Perm es') (nonempty : es ≠ []) :
    (a.choose self type kind es').toOption = (a.choose self type kind es).toOption := by
  have nonempty' : es' ≠ [] := fun empty => nonempty (List.perm_nil.1 (empty ▸ perm))
  have same : (greatest (·.1.parameters.length) (a.callable self kind (Executable.pool es))).Perm
      (greatest (·.1.parameters.length) (a.callable self kind (Executable.pool es'))) :=
    greatest_perm ((Executable.pool_perm perm).filterMap _)
  refine Option.ext fun chosen => ?_
  rw [toOption_eq_some, toOption_eq_some, (decides_choose type nonempty).eq_ok_iff,
    (decides_choose type nonempty').eq_ok_iff]
  exact ⟨fun h => List.perm_singleton.1 (h ▸ same),
    fun h => (List.singleton_perm.1 (h ▸ same)).symm⟩

end Assembly

/-! ### The constructors of a shop -/

namespace Sample

/-- A constructor of the shop. The shop has several that differ in their parameters. -/
def shopConstructor (parameters : List Parameter) : Executable :=
  .ofConstructor "app.Shop" { parameters }

/-- A shelf that cannot be done without. No definition provides one. -/
def neededShelf : Parameter :=
  { shelfParameter with required := true }

/-- The constructors of the shop. The longest of them lacks an argument. -/
def shopConstructors : List Executable :=
  [shopConstructor [], shopConstructor [allParameter], shopConstructor [neededShelf, allParameter]]

theorem arguments_allParameter : (shopAssembly shopCatalog).arguments "shop" "constructor"
    (shopConstructor [allParameter]) = .ok [.beans .list (.raw "lib.Part") ["bolt", "nut"]] := by
  have found : (shopAssembly shopCatalog).candidates "shop" (.raw "lib.Part") =
      [partDefinition "bolt", partDefinition "nut"] := by cbv
  exact Assembly.argumentsFrom_cons_of_ok (value?_allParameter found (List.cons_ne_nil _ _)) rfl

theorem value?_neededShelf :
    (shopAssembly shopCatalog).value? "shop" neededShelf.point = .error .noCandidate := by
  have empty : (shopAssembly shopCatalog).candidates "shop" (.raw "lib.Shelf") = [] := by cbv
  rw [Assembly.value?_eq_bean? rfl rfl rfl]
  simp [Assembly.bean?, neededShelf, shelfParameter, Parameter.point, empty, Assembly.single?,
    Assembly.narrow, Assembly.prefer, Assembly.absent]

theorem not_resolves_neededShelf : ¬(shopAssembly shopCatalog).Resolves "shop" "constructor"
    (shopConstructor [neededShelf, allParameter]) := by
  rintro ⟨values, found⟩
  simp only [shopConstructor, Executable.ofConstructor, Assembly.arguments, Assembly.argumentsFrom,
    value?_neededShelf] at found
  cases found

end Sample

namespace Assembly

/-- Of some constructors or overloads, one pool is tried, and the choice is made among its members.
They can be tried in turn. Whether one is called, and which one it is, does not depend on their
order. -/
theorem choose_isChoice (a : Assembly) (self type kind : String) {es : List Executable}
    (nonempty : es ≠ []) :
    ∃ pool, Executable.IsPool es pool ∧ (∀ pool', Executable.IsPool es pool' → pool' = pool) ∧
      a.IsChoice self type kind pool (a.choose self type kind es) ∧
      a.chooseInTurn self type kind es = a.choose self type kind es ∧
      ∀ es', es.Perm es' →
        (a.choose self type kind es').toOption = (a.choose self type kind es).toOption :=
  ⟨Executable.pool es, Executable.isPool_pool es, fun _ => Executable.IsPool.eq_pool,
    (decides_choose type nonempty).isChoice, chooseInTurn_eq_choose a self type kind es,
    fun _ perm => toOption_choose_of_perm perm nonempty⟩

theorem choose_isChoice_shop : Sample.shopConstructors ≠ [] ∧
    ((Sample.shopAssembly Sample.shopCatalog).choose "shop" "app.Shop" "constructor"
      Sample.shopConstructors.reverse).toOption =
        some (Sample.shopConstructor [Sample.allParameter],
          [.beans .list (.raw "lib.Part") ["bolt", "nut"]]) := by
  have nonempty : Sample.shopConstructors ≠ [] := List.cons_ne_nil _ _
  obtain ⟨pool, -, unique, choice, -, ordered⟩ := choose_isChoice
    (Sample.shopAssembly Sample.shopCatalog) "shop" "app.Shop" "constructor" nonempty
  obtain rfl := unique _ (.all (by decide) rfl)
  refine ⟨nonempty, ?_⟩
  rw [ordered _ (List.reverse_perm _).symm, toOption_eq_some]
  refine (choice.ok_iff _ _).2 ⟨[_], [_], rfl, Sample.arguments_allParameter, ?_⟩
  refine List.forall_mem_cons.2 ⟨fun _ => by decide, List.forall_mem_singleton.2 ?_⟩
  exact fun resolves => absurd resolves Sample.not_resolves_neededShelf

end Assembly

end StaticWiring
