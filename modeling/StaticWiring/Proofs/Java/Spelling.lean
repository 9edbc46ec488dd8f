import Mathlib.Data.List.TakeWhile
import StaticWiring.Java.Scope

/-!
# Names of types and their parts

A name has a package if there is a dot in its outermost type. The dimensions of an array and the
types nested in the outermost one stand behind the outermost type, and no part of them belongs to
it.

## Main definitions

* `Java.HasPackage` — a name has a package.
* `Java.Spelling.tail` — what is written behind the outermost type.

## Main results

* `Java.isQualified_spelling`, `Java.dot_mem_outer`, `Java.dollar_not_mem_outer` — the outermost
  type of a name with a package.
* `Java.spelling_of_plain` — a name that is an outermost type.
* `Java.packageOf_qualify` — the package of the type that a file is about.
-/

namespace StaticWiring.Java

variable {name : String} {cs : List Char}

/-! ### The last segment -/

theorem dot_not_mem_lastSegment (name : String) : '.' ∉ (lastSegment name).toList := by
  rw [lastSegment, String.toList_ofList, List.mem_reverse]
  intro dot
  simpa using List.mem_takeWhile_imp dot

/-! ### Dimensions -/

theorem stripDimensions_eq_append (cs : List Char) :
    ∃ brackets, (∀ c ∈ brackets, c = ']' ∨ c = '[') ∧
      cs = brackets ++ (stripDimensions cs).1 := by
  fun_induction stripDimensions cs with
  | case1 cs element dimensions found ih =>
    obtain ⟨brackets, all, split⟩ := ih
    rw [found] at split
    refine ⟨']' :: '[' :: brackets, ?_, by simpa using split⟩
    simpa using all
  | case2 cs => exact ⟨[], by simp, rfl⟩

/-- The element type of an array, or the whole name. It is what is left without the brackets at the
end. -/
def element (name : String) : List Char :=
  (stripDimensions name.toList.reverse).1.reverse

/-- The number of dimensions of an array. It is zero for types that are no arrays. -/
def dimensions (name : String) : Nat :=
  (stripDimensions name.toList.reverse).2

theorem exists_brackets (name : String) :
    ∃ brackets, (∀ c ∈ brackets, c = ']' ∨ c = '[') ∧ name.toList = element name ++ brackets := by
  obtain ⟨brackets, all, split⟩ := stripDimensions_eq_append name.toList.reverse
  refine ⟨brackets.reverse, fun c hc => all c (List.mem_reverse.1 hc), ?_⟩
  rw [element, ← List.reverse_append, ← split, List.reverse_reverse]

/-! ### Outermost types -/

/-- There is a dot in the outermost type of the name. Dots in nested names do not count. -/
def HasPackage (name : String) : Prop :=
  '.' ∈ TypeName.outermost name.toList

instance (name : String) : Decidable (HasPackage name) :=
  inferInstanceAs (Decidable (_ ∈ _))

/-- Brackets behind a name add no dots to its outermost type. They stand behind its end. -/
theorem dot_mem_element (h : HasPackage name) : '.' ∈ TypeName.outermost (element name) := by
  obtain ⟨brackets, all, split⟩ := exists_brackets name
  rw [HasPackage, split, TypeName.outermost, List.takeWhile_append] at h
  split at h
  · next whole =>
    have outer : TypeName.outermost (element name) = element name :=
      (List.takeWhile_prefix _).eq_of_length whole
    rw [outer]
    refine (List.mem_append.1 h).resolve_right fun dot => ?_
    rcases all '.' (List.takeWhile_subset _ dot) with bracket | bracket <;> cases bracket
  · exact h

theorem cutAt_cases (p : Char → Bool) (cs : List Char) :
    (Text.cutAt p cs = none ∧ cs.takeWhile (!p ·) = cs) ∨
      ∃ rest, Text.cutAt p cs = some (cs.takeWhile (!p ·), rest) := by
  induction cs with
  | nil => exact .inl ⟨rfl, rfl⟩
  | cons c cs ih =>
    by_cases here : p c = true
    · exact .inr ⟨cs, by simp [Text.cutAt, here]⟩
    · rcases ih with ⟨cut, taken⟩ | ⟨rest, cut⟩
      · exact .inl (by simp [Text.cutAt, here, cut, taken])
      · exact .inr ⟨rest, by simp [Text.cutAt, here, cut]⟩

theorem cutAt_eq_none {p : Char → Bool} (none : ∀ c ∈ cs, p c = false) :
    Text.cutAt p cs = Option.none := by
  induction cs with
  | nil => rfl
  | cons c cs ih =>
    obtain ⟨first, others⟩ := List.forall_mem_cons.1 none
    simp [Text.cutAt, first, ih others]

/-- The parts of a name that has a dot. The dot may stand in front of a nested name or in the
outermost one. -/
theorem spelling_of_dot (dot : '.' ∈ element name) :
    spelling name =
      match Text.cutAt (· == '$') (element name) with
      | none => ⟨String.ofList (element name), none, dimensions name, true⟩
      | some (outer, nested) =>
        ⟨String.ofList outer, some (Text.replace '$' '.' (String.ofList nested)), dimensions name,
          true⟩ :=
  if_pos (List.contains_iff_mem.2 dot)

/-- The parts of a name that has no dot. Nested names are then not told apart from the outermost
one. -/
theorem spelling_of_not_dot (plain : '.' ∉ element name) :
    spelling name =
      ⟨Text.replace '$' '.' (String.ofList (element name)), none, dimensions name, false⟩ :=
  if_neg (mt List.contains_iff_mem.1 plain)

theorem outer_spelling (dot : '.' ∈ element name) :
    (spelling name).isQualified = true ∧
      (spelling name).outer = String.ofList (TypeName.outermost (element name)) := by
  have outermost : TypeName.outermost (element name) =
      (element name).takeWhile (!(· == '$') ·) := rfl
  rw [outermost, spelling_of_dot dot]
  rcases cutAt_cases (· == '$') (element name) with ⟨cut, taken⟩ | ⟨rest, cut⟩
  · rw [cut, taken]
    exact ⟨rfl, rfl⟩
  · rw [cut]
    exact ⟨rfl, rfl⟩

section

variable (h : HasPackage name)

include h

theorem dot_mem_of_hasPackage : '.' ∈ element name :=
  List.takeWhile_subset _ (dot_mem_element h)

theorem isQualified_spelling : (spelling name).isQualified = true :=
  (outer_spelling (dot_mem_of_hasPackage h)).1

theorem dot_mem_outer : '.' ∈ (spelling name).outer.toList := by
  rw [(outer_spelling (dot_mem_of_hasPackage h)).2, String.toList_ofList]
  exact dot_mem_element h

theorem dollar_not_mem_outer : '$' ∉ (spelling name).outer.toList := by
  rw [(outer_spelling (dot_mem_of_hasPackage h)).2, String.toList_ofList]
  intro dollar
  simpa using List.mem_takeWhile_imp dollar

end

/-- A name without nested types and dimensions is an outermost type. Its name is then kept as it is.
-/
theorem spelling_of_plain (flat : '$' ∉ name.toList) (single : TypeName.isArray name = false) :
    spelling name = ⟨name, none, 0, name.toList.contains '.'⟩ := by
  have stripped : stripDimensions name.toList.reverse = (name.toList.reverse, 0) := by
    rw [stripDimensions.eq_def]
    split
    · next cs reversed =>
      have array : TypeName.isArray name = true := by
        refine List.isSuffixOf_iff_suffix.2 ⟨cs.reverse, ?_⟩
        rw [← List.reverse_reverse name.toList, reversed]
        simp
      rw [single] at array
      cases array
    · rfl
  have whole : element name = name.toList := by
    rw [element, stripped, List.reverse_reverse]
  have none : dimensions name = 0 := by
    rw [dimensions, stripped]
  by_cases dot : '.' ∈ name.toList
  · have uncut : Text.cutAt (· == '$') name.toList = Option.none := by
      refine cutAt_eq_none fun c hc => beq_eq_false_iff_ne.2 ?_
      rintro rfl
      exact flat hc
    rw [spelling_of_dot (whole ▸ dot), whole, uncut, none, List.contains_iff_mem.2 dot,
      String.ofList_toList]
  · -- Without a package every dollar sign would be replaced, but there is none.
    have same : Text.replace '$' '.' name = name := by
      rw [Text.replace, List.map_congr_left (g := id), List.map_id, String.ofList_toList]
      intro c hc
      refine if_neg ?_
      rintro rfl
      exact flat hc
    have plain : name.toList.contains '.' = false := by
      simpa using dot
    rw [spelling_of_not_dot (whole ▸ dot), whole, none, plain, String.ofList_toList, same]

/-! ### The package of a qualified name -/

/-- A simple name behind a package is in that package. The package is found again by cutting at the
last dot. -/
theorem packageOf_qualify {package className : String} (simple : '.' ∉ className.toList)
    (dot : '.' ∈ (TypeName.qualify package className).toList)
    (flat : '$' ∉ (TypeName.qualify package className).toList) :
    TypeName.packageOf (TypeName.qualify package className) = package := by
  have named : ¬ package.isEmpty = true := by
    intro unnamed
    rw [TypeName.qualify, if_pos unnamed] at dot
    exact simple dot
  have outermost : TypeName.outermost (TypeName.qualify package className).toList =
      package.toList ++ '.' :: className.toList := by
    rw [TypeName.outermost, List.takeWhile_eq_self_iff.2]
    · simp [TypeName.qualify, named]
    · rintro c hc
      simp only [bne_iff_ne]
      rintro rfl
      exact flat hc
  rw [TypeName.packageOf, outermost, TypeName.beforeLastDot, List.reverse_append,
    List.reverse_cons, List.append_assoc, List.dropWhile_append_of_pos]
  · simp
  · rintro c hc
    simp only [bne_iff_ne]
    rintro rfl
    exact simple (List.mem_reverse.1 hc)

/-! ### What follows the outermost type -/

/-- What is written behind the outermost type. It is the same whether the outermost type is written
with its package or without. -/
def Spelling.tail (parts : Spelling) : String :=
  (match parts.nested with
    | some nested => "." ++ nested
    | none => "") ++ String.join (List.replicate parts.dimensions "[]")

end StaticWiring.Java
