import IconImports.Glob.Token
import IconImports.Path

/-!
# File systems

A `FileSystem` is all that the program sees of the files around it: where a glob pattern leads, which
paths are files, and what a file holds. Each of these can be refused. `FileSystem.expandPatterns`
merges the files that several patterns match into one list.
-/

namespace IconImports

inductive ReadError
  | notFound
  | isADirectory
  | notADirectory
  | permissionDenied
  | nulInPath
  | notUtf8
  /-- Any other error of the system, by its message. -/
  | other (message : String)
  deriving DecidableEq

def ReadError.message : ReadError → String
  | notFound => "No such file or directory (os error 2)"
  | isADirectory => "Is a directory (os error 21)"
  | notADirectory => "Not a directory (os error 20)"
  | permissionDenied => "Permission denied (os error 13)"
  | nulInPath => "file name contained an unexpected NUL byte"
  | notUtf8 => "stream did not contain valid UTF-8"
  | other message => message

namespace Glob

/-- A text that is no pattern, and why. -/
structure Error where
  pattern : String
  problem : Problem
  /-- The number of characters before the place where the problem was noticed. -/
  position : Nat
  deriving DecidableEq

def Error.message (e : Error) : String :=
  s!"Pattern syntax error near position {e.position}: {e.problem.message}"

def Error.report (e : Error) : String := s!"Invalid glob pattern: {e.pattern}: {e.message}"

/-- A directory on the way of a pattern that could not be listed. -/
structure Unlisted where
  path : Path
  cause : ReadError
  deriving DecidableEq

def Unlisted.message (e : Unlisted) : String :=
  s!"attempting to read `{e.path.text}` resulted in an error: {e.cause.message}"

end Glob

structure FileSystem where
  /-- The paths that a pattern matches, and the directories that could not be listed on the way, in
  the order in which they are come to. -/
  glob : String → Except Glob.Error (List (Except Glob.Unlisted Path))
  /-- Whether a path leads to a regular file. -/
  isFile : Path → Bool
  read : Path → Except ReadError String
  /-- Two spellings of a path lead to one file, if to any. -/
  read_eq_of_same : ∀ {a b : Path}, isFile a → isFile b → a.same b → read a = read b

/-! ### Lists of files -/

/-- The elements of a list without those that are the same as the one kept before them. -/
def dropRepeats {α : Type} (same : α → α → Bool) : List α → List α
  | [] => []
  | a :: l => keep a l
where
  keep (a : α) : List α → List α
    | [] => [a]
    | b :: l => if same a b then keep a l else a :: keep b l

/-- The paths in their order, each once. Of several spellings the first one stays. -/
def canonicalPaths (paths : List Path) : List Path :=
  dropRepeats Path.same (paths.mergeSort Path.le)

inductive ExpansionError
  | invalid (cause : Glob.Error)
  | unlisted (cause : Glob.Unlisted)
  deriving DecidableEq

def ExpansionError.report : ExpansionError → String
  | invalid cause => cause.report
  | unlisted cause => cause.message

namespace FileSystem

def files (fs : FileSystem) (pattern : String) : Except ExpansionError (List Path) := do
  let entries ← (fs.glob pattern).mapError .invalid
  let paths ← entries.mapM fun entry => entry.mapError .unlisted
  return paths.filter fs.isFile

/-- The files that patterns match, each once and in order. What goes wrong first is the error. -/
def expandPatterns (fs : FileSystem) (patterns : List String) :
    Except ExpansionError (List Path) := do
  let found ← patterns.mapM fs.files
  return canonicalPaths found.flatten

end FileSystem

end IconImports
