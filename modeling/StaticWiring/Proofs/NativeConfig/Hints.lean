import StaticWiring.Build
import StaticWiring.NativeConfig.Compiled
import StaticWiring.Proofs.ClassPath.Order
import StaticWiring.Proofs.NativeConfig.Union

/-!
# Hints in any order

The contributor of hints requests what the hints of all types ask for, as far as they apply. Which
hints apply depends on what types there are and not on their order, and requests unite. So the
configuration of the native image does not depend on the order of the types, nor on the order of the
hints on a type.

A hint names the types of all its entries, so that none of them belongs to a subsystem that is left
out.

## Main definitions

* `NativeConfig.hintRequests` — the requests of the hints that apply.

## Main results

* `NativeHint.applies_iff` — when a hint applies.
* `NativeConfig.applyHints_eq` — hints are their requests.
* `NativeConfig.says_applyHints_iff` — what the hints say together.
* `Build.contribute_nativeHints` — the configuration that the contributor leaves.
-/

namespace StaticWiring

variable {cp cp' : ClassPath} {options : Options}

/-! ### Hints that apply -/

namespace NativeHint

variable {hint : NativeHint}

/-- A hint applies if its trigger is present and no type that it names is left out. Without a
trigger it depends on the types alone. -/
theorem applies_iff :
    hint.applies cp options = true ↔
      (∀ trigger, hint.trigger = some trigger → cp.isPresent trigger = true) ∧
        ∀ type ∈ hint.mentioned, options.isRemoved type = false := by
  simp [applies, Option.all_eq_true]

theorem applies_eq (h : cp.HasSameHints cp') (hint : NativeHint) :
    hint.applies cp options = hint.applies cp' options := by
  have present : cp.isPresent = cp'.isPresent := funext h.isPresent_eq
  rw [applies, applies, present]

theorem requests_eq (h : cp.HasSameHints cp') (hint : NativeHint) :
    hint.requests cp = hint.requests cp' := by
  have access (hint : TypeHint) : hint.accessTo cp = hint.accessTo cp' := by
    funext type
    rw [TypeHint.accessTo, TypeHint.accessTo, h.kind?_eq]
  simp only [requests, TypeHint.requests, TypeHint.jniRequests, access]

end NativeHint

namespace NativeConfig

/-- The entry is for the type, or for a proxy with the type. Patterns and bundles name no types. -/
def Fact.Names (type : String) : Fact → Prop
  | .reflection named _ => named = type
  | .jni named _ => named = type
  | .proxy interfaces => type ∈ interfaces
  | .pattern _ => False
  | .bundle _ => False
  | .serialization named => named = type

end NativeConfig

section Mentioned

open NativeConfig

variable {r : Request} {fact : Fact} {type : String}

theorem TypeHint.mem_types_of_mem_requests {hint : TypeHint} (member : r ∈ hint.requests cp)
    (said : r.Says fact) (named : fact.Names type) : type ∈ hint.types := by
  obtain ⟨known, listed, part⟩ := List.mem_flatMap.1 member
  have same : type = known := by
    simp only [List.cons_append, List.mem_cons, List.mem_append, List.mem_map] at part
    obtain rfl | ⟨m, -, rfl⟩ | ⟨f, -, rfl⟩ := part <;>
      cases fact <;> simp_all [Request.Says, Fact.Names]
  rwa [same]

theorem TypeHint.mem_types_of_mem_jniRequests {hint : TypeHint} (member : r ∈ hint.jniRequests cp)
    (said : r.Says fact) (named : fact.Names type) : type ∈ hint.types := by
  obtain ⟨known, listed, rfl⟩ := List.mem_map.1 member
  have same : type = known := by
    cases fact <;> simp_all [Request.Says, Fact.Names]
  rwa [same]

/-- A hint mentions the types of all its entries. A hint that passes the test therefore has no entry
for a type that is left out. -/
theorem NativeHint.mem_mentioned_of_mem_requests {hint : NativeHint}
    (member : r ∈ hint.requests cp) (said : r.Says fact) (named : fact.Names type) :
    type ∈ hint.mentioned := by
  simp only [requests, List.mem_append, List.mem_flatMap, List.mem_map] at member
  simp only [mentioned, List.mem_append, List.mem_flatMap]
  obtain (((⟨part, listed, asked⟩ | ⟨part, listed, asked⟩) | ⟨proxy, listed, rfl⟩) |
    ⟨part, listed, asked⟩) | ⟨name, listed, rfl⟩ := member
  · exact .inl (.inl (.inl (.inr
      ⟨part, listed, TypeHint.mem_types_of_mem_requests asked said named⟩)))
  · exact .inl (.inl (.inr ⟨part, listed, TypeHint.mem_types_of_mem_jniRequests asked said named⟩))
  · refine .inl (.inr ⟨proxy, listed, ?_⟩)
    cases fact <;> simp_all [Request.Says, Fact.Names]
  · -- Resources are no types.
    simp only [ResourceHint.requests, List.mem_append, List.mem_map] at asked
    obtain ⟨_, -, rfl⟩ | ⟨_, -, rfl⟩ := asked <;>
      cases fact <;> simp_all [Request.Says, Fact.Names]
  · refine .inr ?_
    cases fact <;> simp_all [Request.Says, Fact.Names]

end Mentioned

/-! ### The hints of all types -/

namespace NativeConfig

variable {config : NativeConfig}

theorem applyHint_of_not_applies {hint : NativeHint} (skipped : hint.applies cp options = false)
    (config : NativeConfig) : config.applyHint cp options hint = config := by
  rw [applyHint, skipped]
  rfl

/-- The requests of all hints on the types of a class path that apply. They are in the order of the
types, and of the hints on each of them. -/
def hintRequests (cp : ClassPath) (options : Options) : List Request :=
  ((cp.types.flatMap (·.hints)).filter (·.applies cp options)).flatMap (·.requests cp)

theorem mem_hintRequests_iff {r : Request} :
    r ∈ hintRequests cp options ↔
      ∃ t ∈ cp.types, ∃ hint ∈ t.hints, hint.applies cp options = true ∧ r ∈ hint.requests cp := by
  simp only [hintRequests, List.mem_flatMap, List.mem_filter]
  constructor
  · rintro ⟨hint, ⟨⟨t, member, declared⟩, applies⟩, asked⟩
    exact ⟨t, member, hint, declared, applies, asked⟩
  · rintro ⟨t, member, hint, declared, applies, asked⟩
    exact ⟨hint, ⟨⟨t, member, declared⟩, applies⟩, asked⟩

/-- The hints of all types are the requests of those that apply. Whether a hint applies is decided
before anything is requested. -/
theorem applyHints_eq (config : NativeConfig) (cp : ClassPath) (options : Options) :
    config.applyHints cp options = config.addAll (hintRequests cp options) := by
  unfold applyHints hintRequests
  induction cp.types.flatMap (·.hints) generalizing config with
  | nil => rfl
  | cons hint hints ih =>
    cases applies : hint.applies cp options with
    | false =>
      rw [List.foldl_cons, applyHint_of_not_applies applies, ih,
        List.filter_cons_of_neg (by simp [applies])]
    | true =>
      rw [List.foldl_cons, ih, List.filter_cons_of_pos (by simp [applies]), List.flatMap_cons,
        addAll_append, applyHint, if_pos applies]

/-- What the hints say is what those say that apply. Every entry can be traced to a hint in this
way. -/
theorem says_applyHints_iff {fact : Fact} :
    (applyHints {} cp options).Says fact ↔
      ∃ t ∈ cp.types, ∃ hint ∈ t.hints, hint.applies cp options = true ∧
        ∃ r ∈ hint.requests cp, r.Says fact := by
  rw [applyHints_eq, says_addAll, or_iff_right not_says_empty]
  simp only [mem_hintRequests_iff]
  constructor
  · rintro ⟨r, ⟨t, member, hint, declared, applies, asked⟩, said⟩
    exact ⟨t, member, hint, declared, applies, r, asked, said⟩
  · rintro ⟨t, member, hint, declared, applies, r, asked, said⟩
    exact ⟨r, ⟨t, member, hint, declared, applies, asked⟩, said⟩

/-- The order of the types and of the hints on each of them makes no difference. Requests unite, and
whether a hint applies depends on no other one. -/
theorem applyHints_eq_of_hasSameHints (h : cp.HasSameHints cp') :
    applyHints {} cp options = applyHints {} cp' options := by
  rw [applyHints_eq, applyHints_eq]
  refine addAll_eq_of_mem_iff fun r => ?_
  rw [mem_hintRequests_iff, mem_hintRequests_iff]
  constructor
  · rintro ⟨t, member, hint, declared, applies, asked⟩
    obtain ⟨_, member', hints, perm, rfl⟩ := h.exists_of_mem member
    rw [NativeHint.applies_eq h] at applies
    rw [NativeHint.requests_eq h] at asked
    exact ⟨_, member', hint, perm.mem_iff.1 declared, applies, asked⟩
  · rintro ⟨t', member', hint, declared, applies, asked⟩
    obtain ⟨t, member, hints, perm, rfl⟩ := h.exists_of_mem' member'
    rw [← NativeHint.applies_eq h] at applies
    rw [← NativeHint.requests_eq h] at asked
    exact ⟨t, member, hint, perm.mem_iff.2 declared, applies, asked⟩

/-- No entry of the hints names a type that is left out. It holds whatever other hints there are. -/
theorem isRemoved_eq_false_of_says {fact : Fact} {type : String}
    (said : (applyHints {} cp options).Says fact) (named : fact.Names type) :
    options.isRemoved type = false := by
  obtain ⟨_, _, hint, _, applies, r, asked, said⟩ := says_applyHints_iff.1 said
  have mentioned := NativeHint.mem_mentioned_of_mem_requests asked said named
  exact (NativeHint.applies_iff.1 applies).2 type mentioned

end NativeConfig

/-! ### The contributor of hints -/

/-- The contributor of hints leaves the same configuration, with the same paths covered by whichever
engine and the same descriptors, for the same types in any order and with their hints in any order.
No entry of it names a type that is left out, and every entry stems from a hint that has no trigger
or one that is present. A hint that does not apply changes nothing. -/
theorem Build.contribute_nativeHints {build build' : Build} (empty : build.config = {})
    (empty' : build'.config = {}) (same : build.classPath.HasSameHints build'.classPath)
    (files : FileTree) (options : Options) :
    ∃ done done' : Build,
      build.contribute files options .nativeHints = .ok done ∧
      build'.contribute files options .nativeHints = .ok done' ∧
      (done.config = done'.config ∧
        (∀ (engine : RegexEngine) (path : String),
          (CompiledConfig.ofConfig engine done.config).covers path =
            (CompiledConfig.ofConfig engine done'.config).covers path) ∧
        done.config.descriptors = done'.config.descriptors) ∧
      (∀ type, options.isRemoved type = true →
        done.config.reflection.lookup type = none ∧
        done.config.jni.lookup type = none ∧
        (∀ interfaces ∈ done.config.proxies, type ∉ interfaces) ∧
        type ∉ done.config.serialization) ∧
      (∀ fact, done.config.Says fact →
        ∃ t ∈ build.classPath.types, ∃ hint ∈ t.hints,
          (∀ trigger, hint.trigger = some trigger →
            build.classPath.isPresent trigger = true) ∧
          ∃ r ∈ hint.requests build.classPath, r.Says fact) ∧
      ∀ (config : NativeConfig) (hint : NativeHint),
        hint.applies build.classPath options = false →
          config.applyHint build.classPath options hint = config := by
  have united : build.config.applyHints build.classPath options =
      build'.config.applyHints build'.classPath options := by
    rw [empty, empty', NativeConfig.applyHints_eq_of_hasSameHints same]
  refine ⟨_, _, rfl, rfl, ⟨united, fun engine path => by rw [united], by rw [united]⟩, ?_, ?_,
    fun config hint skipped => NativeConfig.applyHint_of_not_applies skipped config⟩
  · intro type removed
    -- No request names a removed type, so no fact does.
    have absent (fact : NativeConfig.Fact) (named : fact.Names type) :
        ¬ (build.config.applyHints build.classPath options).Says fact := by
      rw [empty]
      intro said
      have kept := NativeConfig.isRemoved_eq_false_of_says said named
      exact Bool.false_ne_true (kept.symm.trans removed)
    refine ⟨?_, ?_, ?_, ?_⟩
    · refine Option.eq_none_iff_forall_ne_some.2 fun t found => ?_
      exact absent (.reflection type .known) rfl ⟨t, found, trivial⟩
    · refine Option.eq_none_iff_forall_ne_some.2 fun t found => ?_
      exact absent (.jni type .known) rfl ⟨t, found, trivial⟩
    · intro interfaces member named
      exact absent (.proxy interfaces) named member
    · intro member
      exact absent (.serialization type) rfl member
  · intro fact said
    change (build.config.applyHints build.classPath options).Says fact at said
    rw [empty] at said
    obtain ⟨t, member, hint, declared, applies, asked⟩ :=
      NativeConfig.says_applyHints_iff.1 said
    exact ⟨t, member, hint, declared, (NativeHint.applies_iff.1 applies).1, asked⟩

/-! ### Two types with hints -/

namespace Sample

/-- An interface with a hint for two types and one for a parser of configuration files. The trigger
of the first hint is the other class of the sample. -/
def apiType : TypeDecl where
  name := "app.Api"
  kind := .interfaceKind
  hints := [
    { trigger := some "app.Dto", types := [{ types := ["app.Api", "app.Dto"] }] },
    { types := [{ types := ["org.yaml.snakeyaml.Yaml"] }] }]

/-- A class that is serialized and accessed by reflection. It is the trigger of a hint and has one
of its own. -/
def dtoType : TypeDecl where
  name := "app.Dto"
  hints := [
    { types := [{ types := ["app.Dto"], access := .publicFields }], serializables := ["app.Dto"] }]

/-- A build with the two types. Both hints on the transfer object apply to it. -/
def hintBuild : Build where
  classPath := { types := [apiType, dtoType], nodup_names := by decide }
  environment := {}

/-- The same build with the types and the hints from the last to the first. It is the same content
in another order. -/
def reversedHintBuild : Build where
  classPath := {
    types := [dtoType, { apiType with hints := apiType.hints.reverse }]
    nodup_names := by decide }
  environment := {}

theorem hasSameHints_hintBuild : hintBuild.classPath.HasSameHints reversedHintBuild.classPath :=
  ⟨[dtoType, apiType], .swap _ _ _,
    .cons ⟨_, .refl _, rfl⟩ (.cons ⟨_, (List.reverse_perm _).symm, rfl⟩ .nil)⟩

end Sample

/-- Without the parsers of configuration files, the hint for them is passed over. The other hints
leave their entries, those of both hints on the transfer object in one. -/
theorem Build.contribute_nativeHints_hintBuild :
    let options : Options := { removeYaml := true }
    Sample.hintBuild.config = {} ∧ Sample.reversedHintBuild.config = {} ∧
    Sample.hintBuild.classPath.HasSameHints Sample.reversedHintBuild.classPath ∧
    ∃ done done' : Build,
      Sample.hintBuild.contribute {} options .nativeHints = .ok done ∧
      Sample.reversedHintBuild.contribute {} options .nativeHints = .ok done' ∧
      done.config = done'.config ∧
      done.config.serialization = ["app.Dto"] ∧
      (done.config.reflection.lookup "app.Dto").any (fun t =>
        t.access.contains .loadType && t.access.contains .publicFields) = true ∧
      options.isRemoved "org.yaml.snakeyaml.Yaml" = true ∧
      done.config.reflection.lookup "org.yaml.snakeyaml.Yaml" = none := by
  obtain ⟨done, done', contributes, contributes', ⟨same, -⟩, absent, -⟩ :=
    contribute_nativeHints (rfl : Sample.hintBuild.config = {})
      (rfl : Sample.reversedHintBuild.config = {}) Sample.hasSameHints_hintBuild {}
      { removeYaml := true }
  have entries : done.config = Sample.hintBuild.config.applyHints Sample.hintBuild.classPath
      { removeYaml := true } := by
    cases contributes
    rfl
  refine ⟨rfl, rfl, Sample.hasSameHints_hintBuild, done, done', contributes, contributes', same,
    ?_, ?_, by decide, (absent "org.yaml.snakeyaml.Yaml" (by decide)).1⟩
  · rw [entries]
    decide
  · rw [entries]
    decide

end StaticWiring
