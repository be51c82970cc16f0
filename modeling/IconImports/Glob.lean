import IconImports.FileTree
import IconImports.Glob.Token

/-!
# Glob patterns

A `Glob` matches paths component by component. A component without wildcards is looked up as it is
written, so that dots keep their meaning; one with wildcards matches the names in a directory; and
`**` stands for any number of directories. `Glob.walk` follows the components through a file tree,
from the working directory or from the root, and with it a tree is a `FileSystem`
(`FileTree.fileSystem`).
-/

namespace IconImports

namespace Glob

/-- What a pattern says about one component of a path. -/
inductive Component
  | literal (name : String)
  | wild (tokens : List Token)
  | recursive
  deriving DecidableEq

def Token.char? : Token → Option Char
  | literal c => some c
  | _ => none

def Component.ofTokens (tokens : List Token) : Component :=
  if tokens = [.recursive] then recursive
  else
    match tokens.mapM Token.char? with
    | some name => literal (String.ofList name)
    | none => wild tokens

def Component.matchesName (name : String) : Component → Bool
  | literal text => name = text
  | wild tokens => matchesText tokens name.toList
  | recursive => true

end Glob

structure Glob where
  components : List Glob.Component
  /-- Whether the pattern ends in a slash, and so matches directories only. -/
  directoriesOnly : Bool
  /-- Whether the pattern starts with a slash, and so leads out of the working directory. -/
  absolute : Bool
  deriving DecidableEq

namespace Glob

/-- The texts of the components of a pattern, of which there is at least one. A slash at its end does
not start another one. -/
def componentTexts (s : List Char) : List (List Char) :=
  let parts := pieces '/' s
  if 1 < parts.length ∧ parts.getLast? = some [] then parts.dropLast else parts

/-- Reads a pattern. It is checked as a whole first, and then each component on its own, because
brackets around a slash make a class only in the whole. -/
def parse (pattern : String) : Except Error Glob :=
  let s := pattern.toList
  let absolute := s.head? = some '/'
  let components := do
    let _ ← tokens 0 true s
    (componentTexts (if absolute then s.tail else s)).mapM fun text =>
      Component.ofTokens <$> tokens 0 true text
  match components with
  | .error (problem, position) => .error ⟨pattern, problem, position⟩
  | .ok components => .ok ⟨components, s.getLast? = some '/', absolute⟩

/-! ### Walking through a tree -/

/-- A place that a walk has come to. -/
structure Spot where
  path : Path
  isDirectory : Bool
  deriving DecidableEq

def Spot.at (tree : FileTree) (path : Path) : Spot := ⟨path, tree.isDirectory path⟩

/-- A directory that the program is not allowed to list. -/
def Unlisted.locked (path : Path) : Unlisted := ⟨path, .permissionDenied⟩

/-- The dot names that tokens with a dot in front match. They are in no listing of a directory. -/
def dotNames : List Token → List String
  | .literal '.' :: ts =>
    ["..", "."].filter fun name => matchesText (.literal '.' :: ts) name.toList
  | _ => []

/-- What a walk comes to below a spot, if `arrive` is what it comes to at an entry with a name. -/
def descend (tree : FileTree) (spot : Spot)
    (arrive : String → Spot → List (Except Unlisted Spot)) : List (Except Unlisted Spot) :=
  if !spot.isDirectory then []
  else
    (tree.below spot.path).flatMap fun
      | .locked names => [.error (.locked (names.foldl Path.child spot.path))]
      | .entry names isDirectory =>
        arrive (names.getLastD "") ⟨names.foldl Path.child spot.path, isDirectory⟩

/-- The spots that components match from a directory on, and the directories that could not be
listed, in the order in which they are come to. -/
def walk (tree : FileTree) : List Component → Spot → List (Except Unlisted Spot)
  | [], spot => [.ok spot]
  | .literal name :: rest, spot =>
    let next := Spot.at tree (spot.path.child name)
    let found := if name = "." ∨ name = ".." then spot.isDirectory else tree.exists? next.path
    if found then walk tree rest next else []
  | .wild tokens :: rest, spot =>
    if !spot.isDirectory then []
    else if tree.isLocked spot.path then [.error (.locked spot.path)]
    else
      let dots := (dotNames tokens).map fun name => Spot.at tree (spot.path.join name)
      let names := (tree.names spot.path).filter fun p => matchesText tokens p.1.toList
      let children := names.map fun p => ⟨spot.path.child p.1, p.2⟩
      (dots ++ children).flatMap fun next => walk tree rest next
  | [.recursive], spot =>
    descend tree spot fun _ next => if next.isDirectory then [.ok next] else []
  | .recursive :: .recursive :: rest, spot => walk tree (.recursive :: rest) spot
  | .recursive :: component :: rest, spot =>
    descend tree spot fun name next =>
      if component.matchesName name then walk tree rest next else []

def paths (glob : Glob) (tree : FileTree) : List (Except Unlisted Path) :=
  let start := Spot.at tree (if glob.absolute then .root else .workingDirectory)
  (walk tree glob.components start).filterMap fun
    | .error e => some (.error e)
    | .ok spot => if glob.directoriesOnly ∧ !spot.isDirectory then none else some (.ok spot.path)

end Glob

def FileTree.fileSystem (tree : FileTree) : FileSystem where
  glob pattern := (Glob.parse pattern).map (·.paths tree)
  isFile := tree.isFile
  read := tree.read
  read_eq_of_same := read_eq_of_same

end IconImports
