import StaticWiring.Proofs.NativeConfig.Coverage

/-!
# Resources that are requested

The patterns of a configuration are read as expressions, and a resource is part of the native image
if one of them matches its path as a whole. A single resource that no broad pattern covers is
requested by its path, which is then read as an expression as well. It is missing from the image
unless that expression matches the path itself, as it does where every character of the path stands
for itself.

## Main definitions

* `NativeConfig.patternMatches` — a pattern, read as an expression, matches a path as a whole.
* `NativeConfig.includes` — some pattern of the configuration does.

## Main results

* `NativeConfig.patternMatches_of_patternCovers` — a broad pattern that covers a path matches it.
* `NativeConfig.patternMatches_self` — paths that match themselves.
* `CompiledConfig.includes_addResource_iff` — the paths that are included once they are requested.
-/

namespace StaticWiring

variable {engine : RegexEngine}

namespace NativeConfig

variable {language : engine.Language} {config : NativeConfig} {path pattern : String}

/-- The pattern, read as an expression, matches the path as a whole. A pattern that the engine
refuses matches nothing. -/
def patternMatches (language : engine.Language) (path pattern : String) : Bool :=
  (engine.read? pattern).any (language.matchesWhole · path)

/-- Some pattern of the configuration matches the path, so that the resource is part of the native
image. -/
def includes (config : NativeConfig) (language : engine.Language) (path : String) : Bool :=
  config.patterns.any (patternMatches language path)

theorem includes_addPattern_iff :
    (config.addPattern pattern).includes language path = true ↔
      config.includes language path = true ∨ patternMatches language path pattern = true := by
  simp only [includes, addPattern, List.any_eq_true, Ascending.mem_insert_iff, or_and_right,
    exists_or, exists_eq_left, or_comm]

/-- A broad pattern that covers a path matches it, if it is an expression by itself. The match
between the start and the end is one of the whole path. -/
theorem patternMatches_of_patternCovers (covers : patternCovers engine path pattern = true)
    (readable : (engine.read? pattern).isSome = true) :
    patternMatches language path pattern = true := by
  obtain ⟨broad, r, inGroup, found⟩ := patternCovers_iff.1 covers
  obtain ⟨r', alone⟩ := Option.isSome_iff_exists.1 readable
  obtain ⟨carets, split, start⟩ := exists_carets pattern
  have whole := isMatch_of_isBroad language broad inGroup start (split ▸ alone) path
  rw [patternMatches, alone]
  exact whole.symm.trans found

theorem includes_of_covers (covered : config.covers engine path = true)
    (readable : ∀ pattern ∈ config.patterns, patternCovers engine path pattern = true →
      (engine.read? pattern).isSome = true) : config.includes language path = true := by
  obtain ⟨pattern, member, covers⟩ := List.any_eq_true.1 covered
  exact List.any_eq_true.2
    ⟨pattern, member, patternMatches_of_patternCovers covers (readable pattern member covers)⟩

/-- A path matches itself if all of its characters stand for themselves and the engine reads it. The
condition leaves out exactly what has a meaning of its own. -/
theorem patternMatches_self (plain : ∀ c ∈ path.toList, c ∉ RegexEngine.operators)
    (readable : (engine.read? path).isSome = true) : patternMatches language path path = true := by
  obtain ⟨r, found⟩ := Option.isSome_iff_exists.1 readable
  rw [patternMatches, found]
  exact language.matchesWhole_plain plain found

end NativeConfig

namespace CompiledConfig

open NativeConfig (patternCovers patternMatches)

/-- What is included after the request for a single resource was included before, or the path was
not covered and matches itself. -/
theorem includes_addResource (c : CompiledConfig engine) (language : engine.Language)
    (path : String) :
    (c.addResource path).2.config.includes language path = true ↔
      c.config.includes language path = true ∨
        c.covers path = false ∧ patternMatches language path path = true := by
  rw [addResource]
  split
  · next covered => simp [covered]
  · next free =>
    rw [and_iff_right (Bool.eq_false_iff.2 free)]
    exact NativeConfig.includes_addPattern_iff

/-- After any requests, a path that is requested is included if and only if it was before, or it is
not covered and, read as an expression, matches itself. It does so if all of its characters stand
for themselves. A path that is covered is included, provided that the patterns that cover it are
expressions by themselves. -/
theorem includes_addResource_iff (language : engine.Language) (requests : List Request)
    (path : String) :
    let c : CompiledConfig engine := addAll {} requests
    let after := (c.addResource path).2.config
    (after.includes language path = true ↔
        c.config.includes language path = true ∨
          c.covers path = false ∧ patternMatches language path path = true) ∧
      ((∀ pattern ∈ c.config.patterns, patternCovers engine path pattern = true →
          (engine.read? pattern).isSome = true) →
        (after.includes language path = true ↔
          c.config.includes language path = true ∨ patternMatches language path path = true) ∧
        ((∀ char ∈ path.toList, char ∉ RegexEngine.operators) →
          (engine.read? path).isSome = true → after.includes language path = true)) := by
  intro c after
  have included := includes_addResource c language path
  refine ⟨included, fun readable => ?_⟩
  -- What is covered needs no further pattern, provided that the covering one can be read alone.
  have covered (h : c.covers path = true) : c.config.includes language path = true := by
    rw [covers_eq (isCompiled_addAll isCompiled_empty requests)] at h
    exact NativeConfig.includes_of_covers h readable
  have requested : after.includes language path = true ↔
      c.config.includes language path = true ∨ patternMatches language path path = true := by
    refine included.trans ⟨Or.imp_right And.right, ?_⟩
    rintro (before | itself)
    · exact .inl before
    · cases free : c.covers path with
      | true => exact .inl (covered free)
      | false => exact .inr ⟨rfl, itself⟩
  exact ⟨requested, fun plain read =>
    requested.2 (.inr (NativeConfig.patternMatches_self plain read))⟩

end CompiledConfig

namespace Sample

/-- All files of a directory. The pattern is broad, so that its paths are covered. -/
def metaRequests : List CompiledConfig.Request :=
  [.plain (.pattern "^META-INF/.*")]

/-- A path with parentheses is left out when it is requested. The parentheses form a group, and are
no part of what is matched. -/
theorem not_includes_notes :
    let c : CompiledConfig Regex.engine := CompiledConfig.addAll {} []
    (c.addResource "notes (1).txt").2.config.includes Regex.language "notes (1).txt" = false := by
  decide +kernel

theorem readable_metaRequests (path : String) :
    let c : CompiledConfig Regex.engine := CompiledConfig.addAll {} metaRequests
    ∀ pattern ∈ c.config.patterns, NativeConfig.patternCovers Regex.engine path pattern = true →
      (Regex.engine.read? pattern).isSome = true := by
  intro c pattern member _
  have readable : ∀ pattern ∈ c.config.patterns, (Regex.engine.read? pattern).isSome = true := by
    decide +kernel
  exact readable pattern member

end Sample

/-- A path of the directory needs no pattern of its own, a plain path matches itself, and a path
with parentheses does not. -/
theorem CompiledConfig.includes_addResource_iff_metaRequests :
    let c : CompiledConfig Regex.engine := addAll {} Sample.metaRequests
    (c.addResource "META-INF/a (1)").2.config.includes Regex.language "META-INF/a (1)" = true ∧
      (c.addResource "a.txt").2.config.includes Regex.language "a.txt" = true ∧
      (c.addResource "a (1)").2.config.includes Regex.language "a (1)" = false := by
  have plain : ("a.txt".toList.all fun c => !RegexEngine.operators.contains c) = true := by
    decide
  have inside := includes_addResource_iff Regex.language Sample.metaRequests "META-INF/a (1)"
  have beside := includes_addResource_iff Regex.language Sample.metaRequests "a.txt"
  have spaced := includes_addResource_iff Regex.language Sample.metaRequests "a (1)"
  refine ⟨?_, ?_, ?_⟩
  · exact (inside.2 (Sample.readable_metaRequests _)).1.2 (.inl (by decide +kernel))
  · exact (beside.2 (Sample.readable_metaRequests _)).2 (by simpa using plain) (by decide +kernel)
  · rw [Bool.eq_false_iff]
    intro included
    obtain before | ⟨-, itself⟩ := spaced.1.1 included
    · exact absurd before (by decide +kernel)
    · exact absurd itself (by decide +kernel)

end StaticWiring
