import StaticWiring.Proofs.Regex.Literal
import StaticWiring.Regex.Engine

/-!
# The language of the program's engine

The engine that the program runs with can be relied on in the way that is assumed of engines. An
expression matches a text as a whole if the walk over the text ends at its last position, among
others.

## Main definitions

* `Regex.language` — the language of the engine.
-/

namespace StaticWiring.Regex

theorem toList_anchored (text : String) :
    (RegexEngine.anchored text).toList = anchoredText text.toList := by
  simp only [RegexEngine.anchored, anchoredText, String.toList_append]

/-- The language of the engine that the program runs with. It shows that what is asked of engines in
general holds of this one. -/
def language : engine.Language where
  matchesWhole := matchesWhole
  isMatch_anchored {carets pattern r r'} start ends alone inGroup text := by
    have alone := read?_of_parse?_eq_some alone
    have inGroup := read?_of_parse?_eq_some inGroup
    have carets : carets.toList = List.replicate carets.toList.length '^' :=
      List.eq_replicate_of_mem start
    rw [String.toList_append, carets] at alone
    rw [toList_anchored] at inGroup
    exact isMatch_of_read?_anchoredText (List.isSuffixOf_iff_suffix.1 ends) alone inGroup text
  matchesWhole_plain {text r} plain found := by
    obtain ⟨symbols, scanned, stands⟩ := exists_symbols?_of_plain plain
    obtain ⟨r', read, whole⟩ := exists_matchesWhole_of_standsFor scanned stands
    obtain rfl : r' = r := Option.some.inj (read.symm.trans (read?_of_parse?_eq_some found))
    exact whole

end StaticWiring.Regex
