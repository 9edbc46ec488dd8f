/-!
# Words with shared beginnings

A choice between words starts with the first bytes of the words. Words with the same beginning share
it, but only those between which no word ends at this point: the order of the words decides which
one is taken, and a word that ends comes after those before it and before those after it.

## Main definitions

* `Regex.WordTree` — words with shared beginnings.
* `Regex.WordTree.insert`, `Regex.WordTree.ofWords` — trees from words.
-/

namespace StaticWiring.Regex

/-- Words of bytes, the latest first. It is what decides how many states literals need that start
alike. -/
inductive WordTree where
  /-- No word. -/
  | nil
  /-- A word that ends here, and earlier words. -/
  | ended (earlier : WordTree)
  /-- The words behind a byte, and others, up to the next word that ends as good as them. -/
  | byte (b : Nat) (behind others : WordTree)
deriving DecidableEq, Inhabited

namespace WordTree

/-- All words end here. It holds of the empty tree as well. -/
def isEnd : WordTree → Bool
  | nil => true
  | ended earlier => earlier.isEnd
  | byte _ _ _ => false

/-- The tree with what stands behind a byte changed, among the words since the last one that
ended. -/
def change (b : Nat) (f : WordTree → WordTree) : WordTree → WordTree
  | byte c behind others =>
    if b = c then byte c (f behind) others else byte c behind (others.change b f)
  | tree => byte b (f nil) tree

/-- One more word. The empty word makes no difference behind the empty word alone. The other words
keep their places. -/
def insert : List Nat → WordTree → WordTree
  | [], ended nil => ended nil
  | [], tree => ended tree
  | b :: word, tree => tree.change b (insert word)

/-- The tree of words. They are inserted in order, so that the last of them is the latest. -/
def ofWords (words : List (List Nat)) : WordTree :=
  words.foldl (fun tree word => tree.insert word) nil

end WordTree

end StaticWiring.Regex
