import StaticWiring.NativeConfig.Descriptor
import StaticWiring.Proofs.NativeConfig.Compiled
import StaticWiring.Regex.Engine

/-!
# Requests in any order

Requests unite: what a configuration of the native image says after them is what it said before and
what any of them asks for. So neither their order nor their repetition can be seen, in the
configuration itself, in the paths that its expressions cover, or in the descriptors that are
written for it. Requests for single resources are left out of this, for a broad pattern takes their
place if it comes first, and not if it comes later.

No request of any kind takes back what was said or covered before. All of this holds for every
engine.

## Main definitions

* `CompiledConfig.Grows` — a configuration says and covers all that another one does.

## Main results

* `NativeConfig.addAll_eq_of_mem_iff` — the same requests in another order, or several times.
* `CompiledConfig.grows_add` — a request takes nothing back.
* `CompiledConfig.addAll_unites` — both, for every configuration that has come about by requests.
-/

namespace StaticWiring

/-! ### Order and repetition -/

namespace NativeConfig

variable {config : NativeConfig} {requests requests' : List Request}

/-- Neither the order nor the repetition of requests can be seen. Only what they say as a whole
counts. -/
theorem addAll_eq_of_mem_iff (same : ∀ r, r ∈ requests ↔ r ∈ requests') :
    config.addAll requests = config.addAll requests' := by
  refine eq_of_says_iff fun fact => ?_
  simp only [says_addAll, same]

end NativeConfig

namespace CompiledConfig

variable {engine : RegexEngine} {c c' : CompiledConfig engine}

/-- What a configuration covers is in the configuration alone, however it has come about. The
expressions may have been collected in another order. -/
theorem covers_eq_of_config_eq (h : c.IsCompiled) (h' : c'.IsCompiled)
    (same : c.config = c'.config) (path : String) : c.covers path = c'.covers path := by
  rw [covers_eq h, covers_eq h', same]

/-! ### Growth -/

/-- Nothing that `c` says or covers is lost in `c'`. It is an order on configurations, in which
requests only go up. -/
structure Grows (c c' : CompiledConfig engine) : Prop where
  /-- The facts: bits of accesses, methods, fields and whether they are written, patterns, proxies,
  bundles and types that are serialized. -/
  facts : ∀ fact, c.config.Says fact → c'.config.Says fact
  /-- The paths that an expression covers. -/
  covers : ∀ path, c.covers path = true → c'.covers path = true

theorem facts_of_add (c : CompiledConfig engine) (r : Request) {fact : NativeConfig.Fact}
    (said : c.config.Says fact) : (c.add r).config.Says fact := by
  cases r with
  | plain r =>
    rw [config_add_plain]
    exact NativeConfig.says_add.2 (.inl said)
  | resource path =>
    simp only [add, addResource]
    split
    · exact said
    · exact NativeConfig.says_addPattern.2 (.inl said)

/-- A request takes nothing back. What covers a path is a pattern, and patterns are facts. It is the
step of the claim for all requests. -/
theorem grows_add (h : c.IsCompiled) (r : Request) : c.Grows (c.add r) := by
  refine ⟨fun fact => facts_of_add c r, fun path covered => ?_⟩
  rw [covers_eq h] at covered
  rw [covers_eq (isCompiled_add h r)]
  have kept : c.config.patterns ⊆ (c.add r).config.patterns := fun pattern member =>
    show (c.add r).config.Says (.pattern pattern) from facts_of_add c r member
  exact NativeConfig.covers_of_subset kept covered

/-! ### Runs -/

/-- After any requests, further requests that are not for single resources lead to the same
configuration, with the same covered paths and the same descriptors, in whatever order and however
often they are made; and no request of any kind takes anything back. -/
theorem addAll_unites {requests requests' : List NativeConfig.Request} (history : List Request)
    (same : ∀ r, r ∈ requests ↔ r ∈ requests') :
    let start : CompiledConfig engine := addAll {} history
    let c := start.addAll (requests.map .plain)
    let c' := start.addAll (requests'.map .plain)
    (c.config = c'.config ∧ (∀ path, c.covers path = c'.covers path) ∧
        c.config.descriptors = c'.config.descriptors) ∧
      ∀ r, start.Grows (start.add r) := by
  intro start c c'
  have compiled : start.IsCompiled := isCompiled_addAll isCompiled_empty history
  have united : c.config = c'.config := by
    rw [config_addAll_plain, config_addAll_plain]
    exact NativeConfig.addAll_eq_of_mem_iff same
  have covers := covers_eq_of_config_eq (isCompiled_addAll compiled _)
    (isCompiled_addAll compiled _) united
  exact ⟨⟨united, covers, congrArg _ united⟩, grows_add compiled⟩

end CompiledConfig

/-! ### Requests for a web application -/

namespace Sample

open NativeConfig

/-- A folder, a type with its class file, and a field that is read and written. The same field is
asked for twice, and has to be writable in the end. -/
def webRequests : List Request := [
  .pattern "^static/.*",
  .reflection "app.Main" (.loadType ||| .classFile),
  .field "app.Main" { name := "clock", allowWrite := false },
  .field "app.Main" { name := "clock", allowWrite := true }]

/-- The same requests from the last to the first, and then once more. Each of them is thus made
twice. -/
def repeatedRequests : List Request :=
  webRequests.reverse ++ webRequests

theorem mem_repeatedRequests (r : Request) : r ∈ webRequests ↔ r ∈ repeatedRequests := by
  rw [repeatedRequests, List.mem_append, List.mem_reverse, or_self]

end Sample

namespace CompiledConfig

/-- A style sheet is requested before the folder that covers it, and is still there later. The other
orders of requests lead to the same configuration. -/
theorem addAll_unites_webRequests :
    let start : CompiledConfig Regex.engine := addAll {} [.resource "static/site.css"]
    let c := start.addAll (Sample.webRequests.map .plain)
    let c' := start.addAll (Sample.repeatedRequests.map .plain)
    (∀ r, r ∈ Sample.webRequests ↔ r ∈ Sample.repeatedRequests) ∧
      c.config = c'.config ∧
      c'.covers "static/index.html" = true ∧ c.covers "static/index.html" = true ∧
      start.Grows (start.add (.plain (.pattern "^static/.*"))) ∧
      (start.add (.plain (.pattern "^static/.*"))).config.Says (.pattern "static/site.css") := by
  obtain ⟨⟨united, covers, -⟩, grows⟩ := @addAll_unites Regex.engine _ _
    [.resource "static/site.css"] Sample.mem_repeatedRequests
  have grown := grows (.plain (.pattern "^static/.*"))
  have sheet : "static/site.css" ∈
      (addAll {} [.resource "static/site.css"] : CompiledConfig Regex.engine).config.patterns := by
    decide +kernel
  have covered : ((addAll {} [.resource "static/site.css"] : CompiledConfig Regex.engine).addAll
      (Sample.repeatedRequests.map .plain)).covers "static/index.html" = true := by
    decide +kernel
  exact ⟨Sample.mem_repeatedRequests, united, covered, (covers _).trans covered, grown,
    grown.facts (.pattern "static/site.css") sheet⟩

end CompiledConfig

end StaticWiring
