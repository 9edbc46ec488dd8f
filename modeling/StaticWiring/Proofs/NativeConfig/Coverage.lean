import Mathlib.Data.List.TakeWhile
import StaticWiring.Proofs.NativeConfig.Compiled
import StaticWiring.Proofs.Regex.Language

/-!
# Paths that broad patterns cover

The text of a broad pattern stands in a group between the start and the end when its expression is
read. Such a pattern covers the paths that it matches in full, as long as what stands behind its
circumflexes is an expression by itself. A pattern that closes the group is read as something else
than a pattern between the start and the end: it covers paths that it does not match.

The language of expressions is that of the engine, whichever it is.

## Main definitions

* `NativeConfig.MatchesInFull` — a broad pattern matches the whole of a path.
* `NativeConfig.ReadAlone` — a broad pattern is an expression by itself.

## Main results

* `NativeConfig.isMatch_of_isBroad` — what the expression of a broad pattern matches.
* `NativeConfig.matchesInFull_iff` — when covering is matching in full.
* `CompiledConfig.covers_addAll_iff` — the paths that are covered after requests, and what the
  request for a single resource adds.
-/

namespace StaticWiring

variable {engine : RegexEngine} {path pattern : String}

namespace NativeConfig

/-! ### Broad patterns -/

/-- A pattern is what stands behind its circumflexes, with the circumflexes in front of it. They may
be any number, and none is left behind them. -/
theorem exists_carets (pattern : String) :
    ∃ carets, pattern = carets ++ withoutCarets pattern ∧ ∀ c ∈ carets.toList, c = '^' := by
  refine ⟨String.ofList (pattern.toList.takeWhile (· == '^')), ?_, fun c member => ?_⟩
  · rw [← String.toList_inj, String.toList_append, withoutCarets, String.toList_ofList,
      String.toList_ofList, List.takeWhile_append_dropWhile]
  · rw [String.toList_ofList] at member
    simpa using List.mem_takeWhile_imp member

theorem endsWith_withoutCarets (broad : isBroad pattern = true) :
    Text.endsWith ".*" (withoutCarets pattern) = true := by
  obtain ⟨-, ends⟩ := (Bool.and_eq_true _ _).mp broad
  obtain ⟨front, text⟩ := List.isSuffixOf_iff_suffix.1 ends
  have behind : (withoutCarets pattern).toList = pattern.toList.dropWhile (· == '^') :=
    String.toList_ofList
  rw [Text.endsWith, List.isSuffixOf_iff_suffix, behind, ← text, List.dropWhile_append]
  split
  · exact ⟨[], rfl⟩
  · exact List.suffix_append _ _

/-- The expression of a broad pattern matches a path if the pattern, with some of its circumflexes
or without them, is an expression that matches the path as a whole. -/
theorem isMatch_of_isBroad (language : engine.Language) (broad : isBroad pattern = true)
    {r : engine.Expression}
    (inGroup : engine.read? (RegexEngine.anchored (withoutCarets pattern)) = some r)
    {carets : String} (start : ∀ c ∈ carets.toList, c = '^') {r' : engine.Expression}
    (alone : engine.read? (carets ++ withoutCarets pattern) = some r') (path : String) :
    engine.isMatch r path = language.matchesWhole r' path :=
  language.isMatch_anchored start (endsWith_withoutCarets broad) alone inGroup path

/-! ### Matching in full -/

/-- The pattern is broad and the engine reads it, and without the circumflexes at its start it
matches the whole of the path. -/
def MatchesInFull (language : engine.Language) (path pattern : String) : Prop :=
  isBroad pattern = true ∧
    (engine.read? (RegexEngine.anchored (withoutCarets pattern))).isSome = true ∧
    (engine.read? (withoutCarets pattern)).any (language.matchesWhole · path) = true

instance (language : engine.Language) (path pattern : String) :
    Decidable (MatchesInFull language path pattern) :=
  inferInstanceAs (Decidable (_ ∧ _ ∧ _))

/-- If the pattern is broad and the engine reads it between the start and the end, it is an
expression by itself as well, once the circumflexes at its start are left out. -/
def ReadAlone (engine : RegexEngine) (pattern : String) : Prop :=
  isBroad pattern = true →
    (engine.read? (RegexEngine.anchored (withoutCarets pattern))).isSome = true →
    (engine.read? (withoutCarets pattern)).isSome = true

instance (engine : RegexEngine) (pattern : String) : Decidable (ReadAlone engine pattern) :=
  inferInstanceAs (Decidable (_ → _ → _))

/-- A broad pattern covers what it matches in full, provided that it is an expression by itself.
What it matches in full, it covers in any case. -/
theorem matchesInFull_iff (language : engine.Language) (alone : ReadAlone engine pattern) :
    MatchesInFull language path pattern ↔ patternCovers engine path pattern = true := by
  rw [patternCovers_iff, MatchesInFull]
  refine and_congr_right fun broad => ?_
  cases inGroup : engine.read? (RegexEngine.anchored (withoutCarets pattern)) with
  | none => simp
  | some r =>
    obtain ⟨r', found⟩ := Option.isSome_iff_exists.1 (alone broad (by rw [inGroup]; rfl))
    have bare : engine.read? ("" ++ withoutCarets pattern) = some r' := by
      rwa [String.empty_append]
    have same := isMatch_of_isBroad language broad inGroup (by simp) bare path
    simp [found, same]

end NativeConfig

namespace CompiledConfig

/-- After any requests, a path is covered if and only if the engine finds a match of a broad pattern
between the start and the end of the path, which is to say that the pattern matches it in full,
provided that every broad pattern is an expression by itself. The request for a single resource
tells whether it adds the path; it does so if the path is neither covered nor a pattern yet.
Otherwise nothing changes, and if so, the path is the only new pattern. -/
theorem covers_addAll_iff (language : engine.Language) (requests : List Request) (path : String) :
    let c : CompiledConfig engine := addAll {} requests
    (c.covers path = true ↔
        ∃ pattern ∈ c.config.patterns, NativeConfig.isBroad pattern = true ∧
          ∃ r, engine.read? (RegexEngine.anchored (NativeConfig.withoutCarets pattern)) = some r ∧
            engine.isMatch r path = true) ∧
      ((∀ pattern ∈ c.config.patterns, NativeConfig.ReadAlone engine pattern) →
        (c.covers path = true ↔
          ∃ pattern ∈ c.config.patterns, NativeConfig.MatchesInFull language path pattern)) ∧
      ((c.addResource path).1 = true ↔ c.covers path = false ∧ path ∉ c.config.patterns) ∧
      ((c.addResource path).1 = false → (c.addResource path).2 = c) ∧
      ((c.addResource path).1 = true →
        (c.addResource path).2.config = c.config.addPattern path ∧
        ∀ pattern, pattern ∈ (c.addResource path).2.config.patterns ↔
          pattern = path ∨ pattern ∈ c.config.patterns) := by
  intro c
  have compiled : c.IsCompiled := isCompiled_addAll isCompiled_empty requests
  have covers : c.covers path = true ↔
      ∃ pattern ∈ c.config.patterns, NativeConfig.patternCovers engine path pattern = true := by
    rw [covers_eq compiled, NativeConfig.covers, List.any_eq_true]
  refine ⟨?_, fun alone => ?_, addResource_fst_iff, addResource_snd_of_not_added, fun added => ?_⟩
  · rw [covers]
    simp only [NativeConfig.patternCovers_iff]
  · rw [covers]
    refine exists_congr fun pattern => and_congr_right fun member => ?_
    exact (NativeConfig.matchesInFull_iff language (alone pattern member)).symm
  · rw [addResource_snd_of_added added]
    exact ⟨rfl, fun pattern => Ascending.mem_insert_iff⟩

end CompiledConfig

/-! ### Patterns for the files of a folder -/

namespace Sample

open CompiledConfig (Request)

/-- A page, the folder that covers it, and a pattern that is no expression. The last pattern is
broad and is refused. -/
def folderRequests : List Request :=
  [.resource "static/index.html", .plain (.pattern "^static/.*"), .plain (.pattern "^).*")]

/-- A pattern that closes the group in which it is read, and opens another one. It is an expression
only between the parentheses of the group. -/
def splitRequests : List Request :=
  [.plain (.pattern "^a)|(?:b.*")]

/-- The pattern covers a path that no pattern matches in full. The path ends with what stands behind
the bar, and begins otherwise. -/
theorem not_matchesInFull_splitRequests :
    let c : CompiledConfig Regex.engine := CompiledConfig.addAll {} splitRequests
    c.covers "xxb" = true ∧
      ¬ ∃ pattern ∈ c.config.patterns,
        NativeConfig.MatchesInFull Regex.language "xxb" pattern := by
  decide +kernel

theorem readAlone_folderRequests :
    let c : CompiledConfig Regex.engine := CompiledConfig.addAll {} folderRequests
    ∀ pattern ∈ c.config.patterns, NativeConfig.ReadAlone Regex.engine pattern := by
  decide +kernel

end Sample

/-- A second page is covered by the folder, and a file beside the folder is added. The refused
pattern covers nothing. -/
theorem CompiledConfig.covers_addAll_iff_folderRequests :
    let c : CompiledConfig Regex.engine := addAll {} Sample.folderRequests
    (∀ pattern ∈ c.config.patterns, NativeConfig.ReadAlone Regex.engine pattern) ∧
      (∃ pattern ∈ c.config.patterns,
        NativeConfig.MatchesInFull Regex.language "static/about.html" pattern) ∧
      c.covers "static/about.html" = true ∧
      c.covers "static/index.html" = true ∧ (c.addResource "static/index.html").2 = c ∧
      (c.addResource "site.css").1 = true ∧
      (c.addResource "site.css").2.config = c.config.addPattern "site.css" := by
  obtain ⟨-, inFull, -⟩ :=
    covers_addAll_iff Regex.language Sample.folderRequests "static/about.html"
  obtain ⟨-, -, -, unchanged, -⟩ :=
    covers_addAll_iff Regex.language Sample.folderRequests "static/index.html"
  obtain ⟨-, -, new, -, grown⟩ :=
    covers_addAll_iff Regex.language Sample.folderRequests "site.css"
  have alone := Sample.readAlone_folderRequests
  have covered : (addAll {} Sample.folderRequests : CompiledConfig Regex.engine).covers
      "static/about.html" = true := by
    decide +kernel
  have added := new.2 ⟨by decide +kernel, by decide +kernel⟩
  exact ⟨alone, (inFull alone).1 covered, covered, by decide +kernel,
    unchanged (by decide +kernel), added, (grown added).1⟩

end StaticWiring
