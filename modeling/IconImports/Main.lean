import IconImports.CommandLine.Run
import IconImports.Glob

/-!
# The program

Reads the part of the file system to which the arguments lead, runs the command line on it, and writes
what it says. A pattern leads to what lies below the directory in front of its first wildcard.
-/

namespace IconImports

def entryAt (location : List String) : IO.FS.DirEntry := ⟨⟨"/"⟩, "/".intercalate location⟩

def readFile (entry : IO.FS.DirEntry) : IO FileTree.Node := do
  match ← (IO.FS.readBinFile entry.path).toBaseIO with
  | .error _ => return .file .locked
  | .ok bytes => return .file (.ofBytes bytes)

/-- What an entry of a directory leads to, with what lies below it down to a depth. -/
def readNode : Nat → IO.FS.DirEntry → IO FileTree.Node
  | 0, entry => do
    if ← entry.path.isDir then return .directory .full []
    else readFile entry
  | depth + 1, entry => do
    if !(← entry.path.isDir) then readFile entry
    else
      match ← entry.path.readDir.toBaseIO with
      | .error _ => return .directory ⟨false, true⟩ []
      | .ok entries =>
        let inside ← entries.toList.mapM fun entry =>
          return (entry.fileName, ← readNode depth entry)
        return .directory .full inside

/-- How many directories a pattern can lead through; no path leads through more than 4096. -/
def reach (tree : FileTree) (pattern : String) : Nat :=
  let pieces := (Path.mk pattern).pieces
  if pieces.contains "**" then 4096 else tree.workingDirectory.length + pieces.length

/-- Reads into the tree what lies where a pattern leads, and the directories on the way. -/
def readPlace (depth : Nat) (tree : FileTree) (pattern : String) : IO FileTree := do
  let plain := (Path.mk pattern).pieces.takeWhile fun piece =>
    !piece.toList.any (['*', '?', '['].contains ·)
  let mut tree := tree
  let mut location := if (Path.mk pattern).isAbsolute then [] else tree.workingDirectory
  for part in plain.filterMap Path.part? do
    location := FileTree.step location part
    if ← (entryAt location).path.isDir then
      tree := tree.addDirectory location
  if ← (entryAt location).path.pathExists then
    tree := tree.add location (← readNode (depth - location.length) (entryAt location))
  return tree

/-- Reads all that lies where patterns lead, everywhere to the same depth, so that no place hides what
was read for another one. -/
def readPlaces (patterns : List String) : IO FileTree := do
  let directory ← IO.currentDir
  let start := FileTree.empty ((Path.mk directory.toString).pieces.filter (· ≠ ""))
  let depth := (patterns.map (reach start)).foldl max 0
  patterns.foldlM (readPlace depth) start

def CommandLine.Request.places : CommandLine.Request → List String
  | preview arguments => arguments.config.toList ++ arguments.patterns
  | help => []
  | version => []

end IconImports

open IconImports in
def main (arguments : List String) : IO UInt32 := do
  let places := match CommandLine.Request.parse arguments with
    | .error _ => []
    | .ok request => request.places
  let tree ← readPlaces places
  let result := CommandLine.run tree.fileSystem arguments
  (← IO.getStderr).putStr result.errors
  (← IO.getStdout).putStr result.output
  return result.exitCode.toUInt32
