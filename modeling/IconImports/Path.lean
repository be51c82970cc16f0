import IconImports.Text.Pieces

/-!
# Paths

A `Path` is written with slashes. Two paths count as equal if they have the same `parts`: a slash
too many, or a dot inside, makes no difference. `Path.le` orders paths part by part, so that all
that lies in a directory stands together.
-/

namespace IconImports

structure Path where
  text : String
  deriving DecidableEq

inductive Path.Part
  | root
  | here
  | parent
  | name (text : String)
  deriving DecidableEq

namespace Path

/-- The kinds of part in order. -/
def Part.rank : Part → Nat
  | root => 0
  | here => 1
  | parent => 2
  | name _ => 3

def Part.text : Part → String
  | name text => text
  | _ => ""

/-- Names are ordered by their characters, and come after all other parts. -/
instance : Ord Part :=
  ⟨fun a b => (compare a.rank b.rank).then (compare a.text b.text)⟩

def pieces (path : Path) : List String :=
  (IconImports.pieces '/' path.text.toList).map String.ofList

/-- The part that a piece stands for, if it is more than a slash too many or a dot inside. -/
def part? (piece : String) : Option Part :=
  if piece = "" ∨ piece = "." then none
  else if piece = ".." then some .parent
  else some (.name piece)

def workingDirectory : Path := ⟨"."⟩

def root : Path := ⟨"/"⟩

def isAbsolute (path : Path) : Bool := path.text.toList.head? = some '/'

/-- The steps of a path. A dot counts only where the path starts with it. -/
def parts (path : Path) : List Part :=
  let steps := path.pieces.filterMap part?
  if path.isAbsolute then .root :: steps
  else if path.pieces.head? = some "." then .here :: steps
  else steps

def same (a b : Path) : Bool := a.parts = b.parts

def le (a b : Path) : Bool := (compare a.parts b.parts).isLE

def join (path : Path) (name : String) : Path :=
  if path.text.toList.getLast? = some '/' then ⟨path.text ++ name⟩
  else ⟨path.text ++ "/" ++ name⟩

/-- The path of something in the directory `path`; in the working directory it is only its name. -/
def child (path : Path) (name : String) : Path :=
  if path.parts = [.here] then ⟨name⟩ else path.join name

end Path

end IconImports
