import StaticWiring.CommandLine
import StaticWiring.Regex.Engine

/-!
# The program

The program reads the folders and files that its arguments name into a tree of files, runs the
command line on that tree, and stores what the run added to it or changed in it.

## Main definitions

* `Disk.read` — the tree of files at some paths.
* `Disk.store` — the difference between two trees of files, put on disk.
* `main` — the program.
-/

namespace StaticWiring

namespace Disk

/-- The place of a path with these segments. No segments at all stand for the folder of the run. -/
def place (segments : List String) : String :=
  if segments.isEmpty then "." else (System.mkFilePath segments).toString

/-- The bound on the number of segments of a path. It keeps the walk finite on a disk with links
that lead around. -/
def maxDepth : Nat :=
  4096

/-- The tree with what stands behind the segments and, if that is a folder, with fewer than `depth`
levels of what it holds. -/
def readBelow : Nat → FileTree → List String → IO FileTree
  | 0, tree, _ => return tree
  | depth + 1, tree, segments => do
    let path := System.mkFilePath [place segments]
    if ← path.isDir then
      let tree := if segments.isEmpty then tree else tree.put segments .folder
      (← path.readDir).foldlM
        (fun tree found => readBelow depth tree (segments ++ [found.fileName])) tree
    else if ← path.pathExists then
      return tree.put segments (.file (.ofBytes (← IO.FS.readBinFile path)))
    else return tree

/-- The places on the way along steps from a place, in order. They begin with the place itself, and
end with the one that the steps lead to. -/
def placesAlong (place : List String) : (steps : List String) → List (List String)
  | [] => [place]
  | step :: steps => place :: placesAlong (FileTree.Path.follow place step) steps

/-- The tree with what stands at a path and on the way to it. What is on the way has to be known,
since a path leads through it. -/
def readAt (tree : FileTree) (path : String) : IO FileTree := do
  let places := placesAlong (FileTree.Path.start path) (FileTree.Path.steps path)
  let tree ← places.dropLast.foldlM (readBelow 1) tree
  places.getLast?.toList.foldlM (readBelow maxDepth) tree

/-- The tree of the folders and files at the paths. They are read one after the other into the same
tree. -/
def read (paths : List String) : IO FileTree :=
  paths.foldlM readAt {}

/-- Puts on disk what is new or different after a run, a folder before what it holds. What the run
left as it was is not touched. -/
def store (before after : FileTree) : IO Unit :=
  for (segments, entry) in after.entries do
    if before.entryAt? segments != some entry then
      match entry with
      | .folder => IO.FS.createDirAll (place segments)
      | .file content => IO.FS.writeBinFile (place segments) content.toBytes

end Disk

end StaticWiring

open StaticWiring in
/-- Runs a command line. The code is 0 for a run that succeeded, 1 for one that failed and 2 for
arguments without a meaning. -/
def main (arguments : List String) : IO UInt32 := do
  let paths := ((Arguments.ofList? arguments).map Arguments.paths).getD []
  let before ← Disk.read paths
  let (outcome, after) := CommandLine.run Regex.engine before arguments
  Disk.store before after
  match outcome with
  | .misuse =>
    IO.eprintln CommandLine.usage
    return 2
  | .failed output failure =>
    output.forM IO.println
    failure.lines.forM IO.eprintln
    return 1
  | .done output =>
    output.forM IO.println
    return 0
