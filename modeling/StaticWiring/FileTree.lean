import StaticWiring.Ascending
import StaticWiring.Text.Cut

/-!
# Trees of files

A tree of files is a value: the folders and files below a root, by their places, in ascending order
of the places. In the order of places a folder precedes what it holds, and the entries of one folder
follow each other by name, so that the entries below a folder are a walk through it, depth first.

A path is a text that leads through the tree step by step. Its steps stand between slashes: a name
leads into a folder, two dots lead back, and an empty step or a single dot stays where it is. Every
step starts from a folder that exists, so that a path may lead nowhere although another path without
its detours leads somewhere. Names and paths have greatest lengths, counted in bytes.

## Main definitions

* `FileTree.Path.join`, `FileTree.Path.parent`, `FileTree.Path.steps` — paths.
* `FileTree.Content`, `FileTree.Entry`, `FileTree` — files, folders and trees of them.
* `FileTree.walk` — the place to which steps lead.
* `FileTree.isFile`, `FileTree.isFolder`, `FileTree.text?`, `FileTree.filesBelow` — reading.
* `FileTree.createFolders?`, `FileTree.write?` — writing.
-/

namespace StaticWiring

namespace FileTree

/-! ### Paths -/

namespace Path

/-- The path of `inner` seen from `base`. An absolute path leads to the same place from everywhere,
so that `base` plays no part then. -/
def join (base inner : String) : String :=
  if base.isEmpty || Text.startsWith "/" inner then inner
  else if Text.endsWith "/" base then base ++ inner
  else base ++ "/" ++ inner

/-- The path of several steps seen from `base`. Each step is put behind the ones before it, with one
slash between them. -/
def joinAll (base : String) (steps : List String) : String :=
  steps.foldl join base

/-- The root of absolute paths as a step of its own. It is no name of a file, since names hold no
slash. -/
def root : String :=
  "/"

/-- The step that leads back. It is the only step that can shorten a place. -/
def back : String :=
  ".."

/-- The step leads nowhere else. It may therefore be left out, as long as what it starts from is a
folder. -/
def stays (step : String) : Bool :=
  step.isEmpty || step == "."

/-- Where a path starts. A relative path starts at the place of the run, which has no steps. -/
def start (path : String) : List String :=
  if Text.startsWith root path then [root] else []

/-- The steps of a path, without those that stay where they are. Slashes next to each other count as
one, as an empty step stays where it is. -/
def steps (path : String) : List String :=
  (Text.pieces (· == '/') path).filter (!stays ·)

/-- The path stays at its end where it is, which must then be a folder. A file at this place is not
reached by the path. -/
def endsInFolder (path : String) : Bool :=
  Text.endsWith "/" path || Text.endsWith "/." path || path == "."

/-- The greatest length of a name. It is counted in bytes. -/
def maxNameLength : Nat :=
  255

/-- The greatest length of a path. It is counted in bytes, without the one that ends the text. -/
def maxLength : Nat :=
  4095

/-- The path is not empty, not too long and without the character that ends texts. Any other path is
refused by the file system before it looks at a single folder. -/
def isSound (path : String) : Bool :=
  !path.isEmpty && path.utf8ByteSize ≤ maxLength && !path.toList.contains '\x00'

/-- The place that one step leads to from another place. Behind the root nothing leads further back,
and what leads back from the start remains. -/
def follow (place : List String) (step : String) : List String :=
  if step != back then place ++ [step]
  else if place == [root] then place
  else if place.all (· == back) then place ++ [back]
  else place.dropLast

/-- The pieces of a path between slashes, the last first, without those at its end that stay where
they are. -/
def settled : List String → List String
  | piece :: outer :: pieces =>
    if stays piece then settled (outer :: pieces) else piece :: outer :: pieces
  | pieces => pieces

/-- What precedes the last step of a path. It is empty for a path of a single step, which stands in
the folder of the run. -/
def parent (path : String) : String :=
  match settled (Text.pieces (· == '/') path).reverse with
  | _ :: outer :: pieces =>
    match settled (outer :: pieces) with
    | [""] => root
    | outer => "/".intercalate outer.reverse
  | _ => ""

/-- The last step of a path. It is empty for a path without steps. -/
def lastStep (path : String) : String :=
  (steps path).getLast?.getD ""

end Path

/-! ### Trees -/

/-- What a file holds: a text, or bytes that are no text. Bytes are kept apart, since they may be
copied but not read. -/
inductive Content where
  /-- A text. -/
  | text (text : String)
  /-- Bytes that are no text. -/
  | binary (bytes : List UInt8)
deriving DecidableEq, Inhabited

/-- The content with the given bytes. They are a text if they are well-formed UTF-8. -/
def Content.ofBytes (bytes : ByteArray) : Content :=
  match String.fromUTF8? bytes with
  | some s => .text s
  | none => .binary bytes.toList

/-- The bytes of a content. They are those that the content was made from. -/
def Content.toBytes : Content → ByteArray
  | .text s => s.toUTF8
  | .binary bytes => ⟨bytes.toArray⟩

/-- What stands at a place. There are no links, so that every place is reached in one way only. -/
inductive Entry where
  /-- A file. -/
  | file (content : Content)
  /-- A folder. -/
  | folder
deriving DecidableEq, Inhabited

end FileTree

/-- The folders and files below a root. A folder need not be listed before what it holds, but it is
if the tree was read from a disk. -/
structure FileTree where
  /-- The entries by their places, in ascending order. -/
  entries : List (List String × FileTree.Entry) := []

namespace FileTree

/-! ### Places -/

/-- The place is the start of paths or lies before it. The places before the start are known to be
folders, although nothing below them is. -/
def isOutermost (place : List String) : Bool :=
  place == [Path.root] || place.all (· == Path.back)

/-- What stands at a place; the outermost places are folders. Nothing else is known of places that
are not listed. -/
def entryAt? (tree : FileTree) (place : List String) : Option Entry :=
  if isOutermost place then some .folder else tree.entries.lookup place

/-- Why a step is impossible. A missing place may be added, whereas a blocked step can never
succeed. -/
inductive Refusal where
  /-- Nothing stands where it leads. -/
  | missing
  /-- It starts from a file, or its name is too long, or what it would add is there. -/
  | blocked
deriving DecidableEq

/-- The place of a name in a folder, whether or not something stands there. The folder has to be
there, since a step through a file leads nowhere. -/
def placeIn (tree : FileTree) (place : List String) (name : String) :
    Except Refusal (List String) :=
  if tree.entryAt? place != some .folder || name.utf8ByteSize > Path.maxNameLength then
    .error .blocked
  else .ok (Path.follow place name)

/-- The place that steps lead to from another place. Every place on the way has to be there, and the
last one may be a file. -/
def walk (tree : FileTree) (place : List String) : List String → Except Refusal (List String)
  | [] => .ok place
  | step :: steps =>
    match tree.placeIn place step with
    | .error refusal => .error refusal
    | .ok next => if (tree.entryAt? next).isSome then tree.walk next steps else .error .missing

/-- The place that a path leads to. A path that ends like that of a folder leads to folders only. -/
def place? (tree : FileTree) (path : String) : Option (List String) :=
  match tree.walk (Path.start path) (Path.steps path) with
  | .error _ => none
  | .ok place =>
    if Path.isSound path && (!Path.endsInFolder path || tree.entryAt? place == some .folder) then
      some place
    else none

/-- What stands at a path. There is nothing at paths that the file system refuses. -/
def entry? (tree : FileTree) (path : String) : Option Entry :=
  tree.place? path >>= tree.entryAt?

/-! ### Reading -/

/-- A folder stands at the path. The empty path is none of a folder. -/
def isFolder (tree : FileTree) (path : String) : Bool :=
  tree.entry? path == some .folder

/-- A file stands at the path. What the file holds plays no part. -/
def isFile (tree : FileTree) (path : String) : Bool :=
  match tree.entry? path with
  | some (.file _) => true
  | _ => false

/-- The text of the file at a path. There is none if the file holds bytes that are no text. -/
def text? (tree : FileTree) (path : String) : Option String :=
  match tree.entry? path with
  | some (.file (.text s)) => some s
  | _ => none

/-- The names that lead from one place to another that lies below it or is the same. There are none
if the other place is reached only by way of the root or by stepping back. -/
def below? (place inner : List String) : Option (List String) :=
  let names := inner.drop place.length
  let goesDown := !names.any fun s => s == Path.root || s == Path.back
  if place.isPrefixOf inner && goesDown then some names else none

/-- The files at or below a path in the order of a walk, with the names that lead to them. The order
is that of the places, so that it depends neither on when a file was written nor on how the disk
lists it. -/
def filesBelow (tree : FileTree) (path : String) : List (List String × Content) :=
  match tree.place? path with
  | none => []
  | some place =>
    tree.entries.filterMap fun (inner, entry) =>
      match entry with
      | .folder => none
      | .file content => (below? place inner).map (·, content)

/-! ### Writing -/

/-- The tree with an entry at a place. What stood there is replaced. -/
def put (tree : FileTree) (place : List String) (entry : Entry) : FileTree :=
  ⟨Ascending.upsert place (fun _ => entry) tree.entries⟩

/-- The tree with a new folder: the last of some steps, when the others lead to a folder. The folder
itself must not be there yet, not even as a file. -/
def addFolder (tree : FileTree) (start before : List String) (name : String) :
    Except Refusal FileTree :=
  match tree.walk start before with
  | .error refusal => .error refusal
  | .ok outer =>
    match tree.placeIn outer name with
    | .error refusal => .error refusal
    | .ok place =>
      if (tree.entryAt? place).isSome then .error .blocked else .ok (tree.put place .folder)

/-- The steps lead to a folder. It is not enough that something stands there. -/
def leadsToFolder (tree : FileTree) (start steps : List String) : Bool :=
  match tree.walk start steps with
  | .error _ => false
  | .ok place => tree.entryAt? place == some .folder

/-- The tree with the folder to which steps, the last first, lead: the folder is added if it is not
there, after those on the way if one of them is missing. -/
def addFolders? (tree : FileTree) (start : List String) : (reversed : List String) → Option FileTree
  | [] => some tree
  | name :: outer =>
    let settle (tree : FileTree) (result : Except Refusal FileTree) : Option FileTree :=
      match result with
      | .ok tree => some tree
      | .error _ => if tree.leadsToFolder start (name :: outer).reverse then some tree else none
    match tree.addFolder start outer.reverse name with
    | .error .missing => do
      let tree ← tree.addFolders? start outer
      settle tree (tree.addFolder start outer.reverse name)
    | result => settle tree result

/-- The tree with a folder at the path and all folders on the way. Nothing happens for the empty
path, which stands for the folder of the run. -/
def createFolders? (tree : FileTree) (path : String) : Option FileTree :=
  if path.isEmpty then some tree
  else if Path.isSound path then tree.addFolders? (Path.start path) (Path.steps path).reverse
  else none

/-- The tree with a file at the path, which must stand in a folder and not be a folder itself. A
file that is there already is replaced. -/
def write? (tree : FileTree) (path : String) (content : Content) : Option FileTree :=
  match (Path.steps path).reverse with
  | [] => none
  | name :: outer =>
    if Path.isSound path && !Path.endsInFolder path then
      match tree.walk (Path.start path) outer.reverse with
      | .error _ => none
      | .ok folder =>
        match tree.placeIn folder name with
        | .error _ => none
        | .ok place =>
          if tree.entryAt? place == some .folder then none
          else some (tree.put place (.file content))
    else none

end FileTree

end StaticWiring
