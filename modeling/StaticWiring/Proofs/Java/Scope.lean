import StaticWiring.Java.Scope

/-!
# The imports of a Java file

A file imports outermost types of the names that are mentioned in it, and no other types.

## Main results

* `Java.Scope.exists_of_mem_taken` — short names are taken by mentioned types with a package.
* `Java.Scope.exists_of_mem_imports` — every import comes from a name that is mentioned.
-/

namespace StaticWiring.Java.Scope

variable {s : Scope} {name type : String} {names : List String} {entry : String × String}

theorem mem_taken_mention (h : entry ∈ (s.mention name).taken) :
    entry ∈ s.taken ∨ (spelling name).isQualified = true ∧ entry.2 = (spelling name).outer := by
  simp only [mention, Bool.and_eq_true] at h
  split at h
  · next takes =>
    rcases List.mem_append.1 h with h | h
    · exact .inl h
    · rw [List.mem_singleton.1 h]
      exact .inr ⟨takes.1, rfl⟩
  · exact .inl h

theorem exists_of_mem_taken (h : entry ∈ (s.mentionAll names).taken) :
    entry ∈ s.taken ∨
      ∃ name ∈ names, (spelling name).isQualified = true ∧ entry.2 = (spelling name).outer := by
  unfold mentionAll at h
  induction names generalizing s with
  | nil => exact .inl h
  | cons name names ih =>
    rcases ih h with h | ⟨other, hother, found⟩
    · exact (mem_taken_mention h).imp_right fun found => ⟨name, List.mem_cons_self, found⟩
    · exact .inr ⟨other, List.mem_cons_of_mem _ hother, found⟩

theorem mem_imports :
    type ∈ s.imports ↔ type ∈ s.taken.map Prod.snd ∧ s.isImplicit type = false := by
  rw [imports, Ascending.mem_insertAll_iff, List.mem_filter]
  simp

/-- The imports of a file of which only the package and the class were known at first. The imported
type is the outermost one, while the class may mention a nested one. -/
theorem exists_of_mem_imports {package className : String}
    (h : type ∈ (({ package, className } : Scope).mentionAll names).imports) :
    ∃ name ∈ names, type = (spelling name).outer := by
  obtain ⟨entry, hentry, rfl⟩ := List.mem_map.1 (mem_imports.1 h).1
  obtain ⟨name, mentioned, -, found⟩ :=
    (exists_of_mem_taken hentry).resolve_left List.not_mem_nil
  exact ⟨name, mentioned, found⟩

end StaticWiring.Java.Scope
