import Mathlib.Data.List.Flatten
import Mathlib.Data.List.Lex
import Mathlib.Data.List.Nodup
import Mathlib.Data.List.Perm.Subperm
import Mathlib.Data.List.Range
import Mathlib.Data.List.TakeWhile

/-!
# Lists without repetition and lists of positions

Definitions are told apart by name and scheduled by position. A list without its repeated items has
each item once, and a list of all positions reads a list back.

## Main results

* `Lists.nodup_eraseDups`, `Lists.eraseDups_concat` — a list without its repeated items.
* `Lists.length_flatMap_filter_add_le` — a list that is expanded without one of its items.
* `Lists.getElem?_filterMap_getElem?` — the items at positions, in the order of the positions.
* `Lists.perm_range_of_length` — distinct positions that are as many as all.
* `Lists.range_le_of_perm` — the ascending order of all positions is the least one.
* `Lists.exists_filter_eq_singleton`, `Lists.eq_of_key_eq` — items with keys that do not repeat.
* `Lists.lookup_map` — values that are changed one by one.
* `Lists.mapM_map` — encoded items are decoded one by one.
* `Lists.takeWhile_append_of_head`, `Lists.dropWhile_append_of_head` — leading items of one kind.
* `Lists.foldlM_keeps` — what all steps keep.
* `Lists.mapM_of_ok`, `Lists.exists_foldlM_eq_ok` — steps that always succeed.
* `Lists.exists_ok_of_mapM` — each of several steps that succeed together.
-/

namespace StaticWiring.Lists

variable {α : Type}

/-! ### Repeated items -/

theorem length_filter_lt_cons (p : α → Bool) (x : α) (xs : List α) :
    (xs.filter p).length < (x :: xs).length :=
  Nat.lt_succ_of_le (List.length_filter_le p xs)

theorem nodup_eraseDups [BEq α] [LawfulBEq α] : (xs : List α) → xs.eraseDups.Nodup
  | [] => List.nodup_nil
  | x :: xs => by
    rw [List.eraseDups_cons, List.nodup_cons, List.mem_eraseDups]
    exact ⟨by simp, nodup_eraseDups (xs.filter fun b => !b == x)⟩
termination_by xs => xs.length
decreasing_by exact length_filter_lt_cons (fun b => !b == x) x xs

/-- An item at the end of a list is one more item without repetition if it is new. The first of
several occurrences is the one that is kept. -/
theorem eraseDups_concat [BEq α] [LawfulBEq α] (xs : List α) (x : α) :
    (xs ++ [x]).eraseDups = if x ∈ xs then xs.eraseDups else xs.eraseDups ++ [x] := by
  rw [List.eraseDups_append]
  by_cases repeated : x ∈ xs <;> simp [List.removeAll, List.eraseDups_cons, repeated]

/-- Without an item, a list is expanded to fewer items: those of that item are missing. It bounds
the work that is left once an item is done. -/
theorem length_flatMap_filter_add_le {β : Type} {f : α → List β} {p : α → Bool} {xs : List α}
    {x : α} (mem : x ∈ xs) (omitted : p x = false) :
    ((xs.filter p).flatMap f).length + (f x).length ≤ (xs.flatMap f).length := by
  have absent : x ∉ xs.filter p := by simp [omitted]
  obtain ⟨part, perm, sub⟩ :=
    List.cons_subperm_of_not_mem_of_mem absent mem List.filter_sublist.subperm
  have fewer := (sub.flatMap f).length_le
  rw [(perm.flatMap_right f).length_eq, List.flatMap_cons, List.length_append] at fewer
  rwa [Nat.add_comm]

/-! ### Positions -/

/-- Distinct positions of a list that are as many as its items are all its positions. There is no
room for another one. -/
theorem perm_range_of_length {is : List Nat} {n : Nat} (nodup : is.Nodup)
    (lt : ∀ i ∈ is, i < n) (length : is.length = n) : is.Perm (List.range n) := by
  refine (nodup.subperm fun i hi => List.mem_range.2 (lt i hi)).perm_of_length_le ?_
  rw [List.length_range, length]

theorem getElem?_filterMap_getElem? {xs : List α} {is : List Nat} (lt : ∀ i ∈ is, i < xs.length)
    (k : Nat) : (is.filterMap (xs[·]?))[k]? = is[k]?.bind (xs[·]?) := by
  induction is generalizing k with
  | nil => simp
  | cons i is ih =>
    have hi : xs[i]? = some (xs.get ⟨i, lt i List.mem_cons_self⟩) := List.getElem?_eq_getElem _
    rw [List.filterMap_cons_some hi]
    cases k with
    | zero => simp [hi]
    | succ k => simpa using ih (fun j hj => lt j (List.mem_cons_of_mem _ hj)) k

theorem filterMap_getElem?_range (xs : List α) :
    (List.range xs.length).filterMap (xs[·]?) = xs := by
  refine List.ext_getElem? fun k => ?_
  rw [getElem?_filterMap_getElem? fun i hi => List.mem_range.1 hi]
  by_cases hk : k < xs.length
  · simp [List.getElem?_range hk]
  · simp [hk]

/-- An item of a list with one more item at its end is one of the list, or the one at its end;
either way, it stands behind the same items as before. -/
theorem getElem?_concat_cases {xs : List α} {x y : α} {k : Nat}
    (h : (xs ++ [x])[k]? = some y) :
    xs[k]? = some y ∧ (xs ++ [x]).take k = xs.take k ∨ y = x ∧ (xs ++ [x]).take k = xs := by
  rcases Nat.lt_or_ge k xs.length with hlt | hge
  · rw [List.getElem?_append_left hlt] at h
    exact .inl ⟨h, List.take_append_of_le_length (Nat.le_of_lt hlt)⟩
  · rw [List.getElem?_append_right hge, List.getElem?_singleton] at h
    split at h
    · next hzero =>
      cases h
      exact .inr ⟨rfl, List.take_left' (by omega)⟩
    · cases h

theorem filterMap_concat {β : Type} (f : α → Option β) (xs : List α) (x : α) :
    (xs ++ [x]).filterMap f = xs.filterMap f ++ (f x).toList := by
  rw [List.filterMap_append, List.filterMap_cons]
  cases f x <;> rfl

/-- An item that is kept or changed comes from an item between those that its neighbours come
from. -/
theorem exists_split_of_filterMap {β : Type} {f : α → Option β} {xs : List α} {ys zs : List β}
    {y : β} (h : xs.filterMap f = ys ++ y :: zs) :
    ∃ before x after, xs = before ++ x :: after ∧ f x = some y ∧
      before.filterMap f = ys ∧ after.filterMap f = zs := by
  obtain ⟨front, rest, rfl, hfront, hrest⟩ := List.filterMap_eq_append_iff.1 h
  obtain ⟨skipped, x, after, rfl, none, here, hafter⟩ := List.filterMap_eq_cons_iff.1 hrest
  refine ⟨front ++ skipped, x, after, (List.append_assoc ..).symm, here, ?_, hafter⟩
  rw [List.filterMap_append, hfront, List.filterMap_eq_nil_iff.2 none, List.append_nil]

theorem take_eq_of_agree {xs ys : List α} {k : Nat} (hx : k < xs.length) (hy : k < ys.length)
    (agree : ∀ (j : Nat) (hj : j < k), xs[j] = ys[j]) : xs.take k = ys.take k := by
  refine List.ext_getElem (by simp; omega) fun j hj _ => ?_
  have hjk : j < k := by simp at hj; omega
  rw [List.getElem_take, List.getElem_take]
  exact agree j hjk

/-- Of all orders of the positions of a list, the ascending one is the least. It is the order that
keeps everything in place. -/
theorem range_le_of_perm {is : List Nat} {n : Nat} (h : is.Perm (List.range n)) :
    List.range n ≤ is := by
  have nodup : is.Nodup := h.nodup_iff.2 List.nodup_range
  have length : is.length = n := by rw [h.length_eq, List.length_range]
  by_contra greater
  rcases List.lt_iff_exists.1 (not_le.1 greater) with ⟨-, shorter⟩ | ⟨k, hk, hk', agree, lt⟩
  · rw [length, List.length_range] at shorter
    exact absurd shorter (Nat.lt_irrefl n)
  · rw [List.getElem_range] at lt
    -- The smaller position stands at its own place already.
    have place := agree is[k] lt
    rw [List.getElem_range, nodup.getElem_inj_iff] at place
    omega

/-! ### Items with a key -/

/-- Where no key occurs twice, exactly one item has a key that occurs. Searching for the key thus
finds one item. -/
theorem exists_filter_eq_singleton {κ : Type} {key : α → Option κ} {k : κ} {p : α → Bool}
    {xs : List α} (nodup : (xs.filterMap key).Nodup) (mem : k ∈ xs.filterMap key)
    (has : ∀ x ∈ xs, p x = true ↔ key x = some k) :
    ∃ x ∈ xs, key x = some k ∧ xs.filter p = [x] := by
  induction xs with
  | nil => cases mem
  | cons x xs ih =>
    obtain ⟨first, others⟩ := List.forall_mem_cons.1 has
    by_cases here : key x = some k
    · rw [List.filterMap_cons_some here, List.nodup_cons] at nodup
      refine ⟨x, List.mem_cons_self, here, ?_⟩
      rw [List.filter_cons_of_pos (first.2 here), List.filter_eq_nil_iff.2]
      exact fun y hy again => nodup.1 (List.mem_filterMap.2 ⟨y, hy, (others y hy).1 again⟩)
    · have rest : (xs.filterMap key).Nodup ∧ k ∈ xs.filterMap key := by
        cases other : key x with
        | none =>
          rw [List.filterMap_cons_none other] at nodup mem
          exact ⟨nodup, mem⟩
        | some k' =>
          rw [List.filterMap_cons_some other] at nodup mem
          refine ⟨(List.nodup_cons.1 nodup).2, (List.mem_cons.1 mem).resolve_left fun same => ?_⟩
          exact here (same ▸ other)
      obtain ⟨y, hy, found, alone⟩ := ih rest.1 rest.2 others
      refine ⟨y, List.mem_cons_of_mem x hy, found, ?_⟩
      rw [List.filter_cons_of_neg (mt first.1 here), alone]

/-- Where no key occurs twice, items with the same key are equal. Items without keys are not
compared. -/
theorem eq_of_key_eq {κ : Type} {key : α → Option κ} {k : κ} {xs : List α} {x y : α}
    (nodup : (xs.filterMap key).Nodup) (hx : x ∈ xs) (hy : y ∈ xs) (xkey : key x = some k)
    (ykey : key y = some k) : x = y := by
  classical
  obtain ⟨z, -, -, alone⟩ :=
    exists_filter_eq_singleton (p := fun x => decide (key x = some k)) nodup
      (List.mem_filterMap.2 ⟨x, hx, xkey⟩) fun x _ => decide_eq_true_iff
  have unique {w : α} (hw : w ∈ xs) (wkey : key w = some k) : w = z := by
    rw [← List.mem_singleton, ← alone, List.mem_filter]
    exact ⟨hw, decide_eq_true wkey⟩
  rw [unique hx xkey, unique hy ykey]

/-- A value is found at its key after all values are changed. The keys and their order stay. -/
theorem lookup_map {κ β : Type} [BEq κ] (f : α → β) (entries : List (κ × α)) (k : κ) :
    (entries.map fun (key, value) => (key, f value)).lookup k = (entries.lookup k).map f := by
  induction entries with
  | nil => rfl
  | cons entry entries ih =>
    obtain ⟨key, value⟩ := entry
    simp only [List.map_cons, List.lookup_cons, ih]
    split <;> rfl

/-- Where every encoded item is decoded, so is the list of them. Decoding may change the items, but
always in the same way. -/
theorem mapM_map {β γ : Type} {g : α → β} {f : β → Option γ} {k : α → γ} {xs : List α}
    (h : ∀ x ∈ xs, f (g x) = some (k x)) : (xs.map g).mapM f = some (xs.map k) := by
  induction xs with
  | nil => rfl
  | cons x xs ih =>
    obtain ⟨first, others⟩ := List.forall_mem_cons.1 h
    rw [List.map_cons, List.mapM_cons, first, ih others]
    rfl

/-! ### Leading items -/

/-- The leading items of one kind end where an item of another kind follows. Only the first of the
other items is looked at. -/
theorem takeWhile_append_of_head {p : α → Bool} {xs ys : List α} (all : ∀ x ∈ xs, p x = true)
    (ends : ∀ y ∈ ys.head?, p y = false) : (xs ++ ys).takeWhile p = xs := by
  rw [List.takeWhile_append_of_pos all]
  cases ys with
  | nil => simp
  | cons y ys => simp [ends y rfl]

theorem dropWhile_append_of_head {p : α → Bool} {xs ys : List α} (all : ∀ x ∈ xs, p x = true)
    (ends : ∀ y ∈ ys.head?, p y = false) : (xs ++ ys).dropWhile p = ys := by
  rw [List.dropWhile_append_of_pos all]
  cases ys with
  | nil => rfl
  | cons y ys => simp [ends y rfl]

/-! ### Steps -/

/-- Where every step succeeds, so do all together. The results are collected in order. -/
theorem mapM_of_ok {ε β : Type} {f : α → Except ε β} {g : α → β} {xs : List α}
    (h : ∀ x ∈ xs, f x = .ok (g x)) : xs.mapM f = .ok (xs.map g) := by
  induction xs with
  | nil => rfl
  | cons x xs ih =>
    obtain ⟨first, others⟩ := List.forall_mem_cons.1 h
    rw [List.mapM_cons, first, ih others]
    rfl

/-- Where all steps succeed together, each one does. Each result is one of those that were
collected. -/
theorem exists_ok_of_mapM {ε β : Type} {f : α → Except ε β} {xs : List α} {ys : List β}
    (h : xs.mapM f = .ok ys) : ∀ x ∈ xs, ∃ y, f x = .ok y := by
  induction xs generalizing ys with
  | nil => exact fun x member => (List.not_mem_nil member).elim
  | cons x xs ih =>
    rw [List.mapM_cons] at h
    cases first : f x with
    | error e =>
      rw [first] at h
      cases h
    | ok y =>
      cases others : xs.mapM f with
      | error e =>
        rw [first, others] at h
        cases h
      | ok ys => exact List.forall_mem_cons.2 ⟨⟨y, first⟩, ih others⟩

/-- What is known of the items so far, and kept by every step, holds after all steps. The claim may
speak of which items were gone through. -/
theorem foldlM_keeps {ε σ : Type} {step : σ → α → Except ε σ} {P : List α → σ → Prop}
    {xs : List α} {s last : σ}
    (keeps : ∀ x ∈ xs, ∀ done s next, P done s → step s x = .ok next → P (done ++ [x]) next)
    (start : P [] s) (h : xs.foldlM step s = .ok last) : P xs last := by
  induction xs generalizing s P with
  | nil =>
    cases h
    exact start
  | cons x xs ih =>
    rw [List.foldlM_cons] at h
    obtain ⟨first, others⟩ := List.forall_mem_cons.1 keeps
    cases stepped : step s x with
    | error e =>
      rw [stepped] at h
      cases h
    | ok next =>
      rw [stepped] at h
      exact ih (P := fun done => P (x :: done)) (fun y hy done => others y hy (x :: done))
        (first [] s next start stepped) h

/-- Steps that always succeed do so one after the other. No failure depends on the state. -/
theorem exists_foldlM_eq_ok {ε σ : Type} {step : σ → α → Except ε σ} {xs : List α}
    (h : ∀ x ∈ xs, ∀ s, ∃ next, step s x = .ok next) (s : σ) :
    ∃ done, xs.foldlM step s = .ok done := by
  induction xs generalizing s with
  | nil => exact ⟨s, rfl⟩
  | cons x xs ih =>
    obtain ⟨next, first⟩ := h x List.mem_cons_self s
    obtain ⟨done, rest⟩ := ih (fun y hy => h y (List.mem_cons_of_mem _ hy)) next
    refine ⟨done, ?_⟩
    rw [List.foldlM_cons, first]
    exact rest

end StaticWiring.Lists
