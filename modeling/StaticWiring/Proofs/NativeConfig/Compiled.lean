import StaticWiring.NativeConfig.Compiled
import StaticWiring.Proofs.NativeConfig.Facts

/-!
# Expressions in step with the patterns

The expression of a broad pattern is read when the pattern is requested for the first time, whether
as a pattern, as the class file of a type, or as a single resource. So after any requests there is
an expression for every broad pattern of the configuration that the engine reads, and no other one,
and a path is covered by the expressions if and only if it is covered by the patterns. This holds
for every engine.

## Main definitions

* `NativeConfig.covers` — a broad pattern of the configuration covers a path.
* `CompiledConfig.IsCompiled` — the expressions are those of the patterns.

## Main results

* `CompiledConfig.covers_eq` — the expressions cover what the patterns cover.
* `CompiledConfig.isCompiled_addAll` — requests keep the expressions in step with the patterns.
* `CompiledConfig.config_addAll_plain` — the expressions make no difference to requests that do not
  ask for them.
* `CompiledConfig.addResource_fst_iff`, `CompiledConfig.addResource_snd_of_not_added` — what the
  request for a single resource adds.
-/

namespace StaticWiring

variable {engine : RegexEngine}

/-! ### Patterns that cover a path -/

namespace NativeConfig

variable {config config' : NativeConfig} {path pattern : String}

/-- The pattern is broad, and its expression matches the path. Nothing is covered by a pattern that
the engine refuses. -/
def patternCovers (engine : RegexEngine) (path pattern : String) : Bool :=
  (broadExpression? engine pattern).any (engine.isMatch · path)

/-- A broad pattern of the configuration covers the path. This is what the expressions of a
configuration are kept for, said of the patterns alone. -/
def covers (config : NativeConfig) (engine : RegexEngine) (path : String) : Bool :=
  config.patterns.any (patternCovers engine path)

theorem patternCovers_iff :
    patternCovers engine path pattern = true ↔
      isBroad pattern = true ∧
        ∃ r, engine.read? (RegexEngine.anchored (withoutCarets pattern)) = some r ∧
          engine.isMatch r path = true := by
  simp only [patternCovers, broadExpression?, Option.any_eq_true, Option.ite_none_right_eq_some,
    and_assoc, exists_and_left]

/-- More patterns cover more paths. Coverage is a matter of single patterns. -/
theorem covers_of_subset (kept : config.patterns ⊆ config'.patterns)
    (covered : config.covers engine path = true) : config'.covers engine path = true := by
  obtain ⟨pattern, member, covering⟩ := List.any_eq_true.1 covered
  exact List.any_eq_true.2 ⟨pattern, kept member, covering⟩

end NativeConfig

namespace CompiledConfig

variable {c : CompiledConfig engine} {path : String}

/-- There is an expression for every broad pattern that the engine reads, and no other one. It is
the invariant of the registry. How often an expression is kept, and in which order, is left open. -/
def IsCompiled (c : CompiledConfig engine) : Prop :=
  ∀ r, r ∈ c.broad ↔
    ∃ pattern ∈ c.config.patterns, NativeConfig.broadExpression? engine pattern = some r

theorem isCompiled_empty : ({} : CompiledConfig engine).IsCompiled := by
  simp [IsCompiled]

theorem isCompiled_ofConfig (config : NativeConfig) : (ofConfig engine config).IsCompiled :=
  fun _ => List.mem_filterMap

/-- The expressions cover what the patterns cover. It relates the registry that runs to what is said
about patterns. -/
theorem covers_eq (h : c.IsCompiled) (path : String) :
    c.covers path = c.config.covers engine path := by
  rw [Bool.eq_iff_iff, covers, NativeConfig.covers, List.any_eq_true, List.any_eq_true]
  simp only [h _, NativeConfig.patternCovers, Option.any_eq_true]
  constructor
  · rintro ⟨r, ⟨pattern, member, found⟩, isMatch⟩
    exact ⟨pattern, member, r, found, isMatch⟩
  · rintro ⟨pattern, member, r, found, isMatch⟩
    exact ⟨r, ⟨pattern, member, found⟩, isMatch⟩

/-! ### One request -/

theorem isCompiled_addPattern (h : c.IsCompiled) (pattern : String) :
    (c.addPattern pattern).IsCompiled := by
  intro r
  simp only [addPattern, NativeConfig.addPattern, Ascending.mem_insert_iff]
  by_cases member : pattern ∈ c.config.patterns
  · -- The pattern was requested before, and its expression is there.
    rw [if_pos (by simpa using member), h r]
    refine exists_congr fun other => and_congr_left' (or_iff_right_of_imp ?_).symm
    rintro rfl
    exact member
  · rw [if_neg (by simpa using member), List.mem_append, h r, Option.mem_toList]
    simp only [or_and_right, exists_or, exists_eq_left, or_comm]

theorem isCompiled_addResource (h : c.IsCompiled) (path : String) :
    (c.addResource path).2.IsCompiled := by
  rw [addResource]
  split
  · exact h
  · exact isCompiled_addPattern h path

/-- A request that leaves the patterns as they are leaves the expressions in step. Expressions
depend on nothing but the patterns. -/
theorem isCompiled_of_patterns_eq (h : c.IsCompiled) {config : NativeConfig}
    (same : config.patterns = c.config.patterns) :
    ({ c with config } : CompiledConfig engine).IsCompiled := by
  simpa only [IsCompiled, same] using h

theorem isCompiled_add (h : c.IsCompiled) (r : Request) : (c.add r).IsCompiled := by
  cases r with
  | resource path => exact isCompiled_addResource h path
  | plain r =>
    cases r with
    | reflection type access =>
      have granted := isCompiled_of_patterns_eq h
        (rfl : (c.config.updateReflection type (·.grant access)).patterns = _)
      simp only [add]
      split
      · exact isCompiled_addPattern granted _
      · exact granted
    | pattern pattern => exact isCompiled_addPattern h pattern
    | proxy interfaces =>
      refine isCompiled_of_patterns_eq h ?_
      simp only [NativeConfig.add]
      split <;> rfl
    | method | field | jni | bundle | serialization => exact isCompiled_of_patterns_eq h rfl

/-- The expressions make no difference to a request that does not ask for them. Only the request for
a single resource looks at them. -/
theorem config_add_plain (c : CompiledConfig engine) (r : NativeConfig.Request) :
    (c.add (.plain r)).config = c.config.add r := by
  cases r with
  | reflection type access =>
    simp only [add, NativeConfig.add]
    split <;> rfl
  | method | field | jni | proxy | pattern | bundle | serialization => rfl

/-! ### Further requests -/

/-- Requests keep the expressions in step with the patterns. Any run of requests thus starts and
ends with the invariant. -/
theorem isCompiled_addAll (h : c.IsCompiled) (requests : List Request) :
    (c.addAll requests).IsCompiled := by
  unfold addAll
  induction requests generalizing c with
  | nil => exact h
  | cons r rest ih => exact ih (isCompiled_add h r)

theorem config_addAll_plain (c : CompiledConfig engine) (requests : List NativeConfig.Request) :
    (c.addAll (requests.map .plain)).config = c.config.addAll requests := by
  unfold addAll NativeConfig.addAll
  induction requests generalizing c with
  | nil => rfl
  | cons r rest ih => rw [List.map_cons, List.foldl_cons, List.foldl_cons, ih, config_add_plain]

/-! ### Single resources -/

/-- A single resource is added if no expression covers it and its path is no pattern yet. Whoever
makes the request is told so. -/
theorem addResource_fst_iff :
    (c.addResource path).1 = true ↔ c.covers path = false ∧ path ∉ c.config.patterns := by
  rw [addResource]
  split
  · next covered => simp [covered]
  · next free =>
    by_cases member : path ∈ c.config.patterns
    · have same := Ascending.insert_of_mem c.config.patterns_ascend member
      simp [addPattern, NativeConfig.addPattern, same, member]
    · have longer := Ascending.length_insert_of_not_mem member
      simp [addPattern, NativeConfig.addPattern, longer, member, free]

/-- A single resource that is not added changes nothing. It makes no difference later on whether it
was made. -/
theorem addResource_snd_of_not_added (passed : (c.addResource path).1 = false) :
    (c.addResource path).2 = c := by
  by_cases covered : c.covers path = true
  · rw [addResource, if_pos covered]
  · have member : path ∈ c.config.patterns := by
      by_contra new
      have added := addResource_fst_iff.2 ⟨Bool.eq_false_iff.2 covered, new⟩
      exact Bool.false_ne_true (passed.symm.trans added)
    rw [addResource, if_neg covered]
    simp [addPattern, NativeConfig.addPattern, member,
      Ascending.insert_of_mem c.config.patterns_ascend member]

theorem addResource_snd_of_added (added : (c.addResource path).1 = true) :
    (c.addResource path).2 = c.addPattern path := by
  rw [addResource] at added ⊢
  split at added
  · cases added
  · next free => rw [if_neg free]

/-- The request for a single resource adds its path as a pattern, unless it is covered. The path
becomes a pattern as it is, without any character escaped. -/
theorem mem_patterns_addResource_iff {pattern : String} :
    pattern ∈ (c.addResource path).2.config.patterns ↔
      pattern ∈ c.config.patterns ∨ pattern = path ∧ c.covers path = false := by
  rw [addResource]
  split
  · next covered => simp [covered]
  · next free => simp [addPattern, NativeConfig.addPattern, Ascending.mem_insert_iff, free, or_comm]

end CompiledConfig

end StaticWiring
