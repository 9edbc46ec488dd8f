import StaticWiring.ClassPath
import StaticWiring.Proofs.Text.Lines

/-!
# Packages and their segments

The name of a package is made of segments with dots between them; the default package has none. A
package lies within another one if it starts with all of the other's segments, compared as a whole:
`com.examples` does not lie within `com.example`, and everything lies within the default package.

## Main definitions

* `ClassPath.segments` — the segments of a package.

## Main results

* `ClassPath.isWithin_iff` — packages within packages by their segments.
-/

namespace StaticWiring.ClassPath

/-- The segments of a package. The package without a name has none. -/
def segments (package : String) : List (List Char) :=
  if package.isEmpty then [] else Text.splitOn (· == '.') package.toList

theorem segments_prefix_iff {cs ds : List Char} :
    Text.splitOn (· == '.') cs <+: Text.splitOn (· == '.') ds ↔ ds = cs ∨ cs ++ ['.'] <+: ds := by
  constructor
  · rintro ⟨others, all⟩
    have joined := Text.intercalate_splitOn '.' ds
    by_cases none : others = []
    · rw [← all, none, List.append_nil, Text.intercalate_splitOn] at joined
      exact .inl joined.symm
    · rw [← all, Text.intercalate_append (Text.splitOn_ne_nil _ _) none,
        Text.intercalate_splitOn] at joined
      exact .inr ⟨_, joined⟩
  · rintro (rfl | ⟨rest, rfl⟩)
    · exact List.prefix_rfl
    · rw [List.append_assoc, List.singleton_append, Text.splitOn_append_cons rfl]
      exact List.prefix_append _ _

/-- A package lies within another one if it starts with the segments of the other. A common start of
the names alone is not enough. -/
theorem isWithin_iff {outer inner : String} :
    isWithin outer inner = true ↔ segments outer <+: segments inner := by
  by_cases all : outer = ""
  · subst all
    simp [isWithin, segments]
  · have some : ¬ outer.isEmpty = true := by simpa using all
    by_cases none : inner = ""
    · subst none
      simp [isWithin, segments, all, Ne.symm all, Text.startsWith, Text.splitOn_ne_nil]
    · rw [segments, segments, if_neg some, if_neg (by simpa using none), segments_prefix_iff]
      simp [isWithin, all, Text.startsWith, List.isPrefixOf_iff_prefix, String.toList_inj]

end StaticWiring.ClassPath
