import IconImports.FileSystem

/-!
# File trees

A `FileTree` is a whole file system in memory: the directories and files under its root, what the
program is allowed to do with each of them, and the place from which relative paths start. A path is
followed piece by piece, and a directory must be open to the program for a path to lead through it.
There are no links, so a place is the list of the names that lead to it from the root.
-/

namespace IconImports

namespace FileTree

/-- What the program may do with a directory. -/
structure Access where
  /-- The names in the directory can be listed. -/
  lists : Bool
  /-- Paths can lead through the directory. -/
  enters : Bool
  deriving DecidableEq

inductive Content
  | text (value : String)
  | notUtf8
  /-- The program is not allowed to read the file. -/
  | locked
  deriving DecidableEq

inductive Node
  | file (content : Content)
  | directory (access : Access) (entries : List (String × Node))

def Access.full : Access := ⟨true, true⟩

def Content.ofBytes (bytes : ByteArray) : Content :=
  match String.fromUTF8? bytes with
  | some value => .text value
  | none => .notUtf8

def Content.read : Content → Except ReadError String
  | text value => .ok value
  | notUtf8 => .error .notUtf8
  | locked => .error .permissionDenied

namespace Node

def isDirectory : Node → Bool
  | file _ => false
  | directory .. => true

def at? : List String → Node → Option Node
  | [], node => some node
  | _ :: _, file _ => none
  | name :: names, directory _ entries => (entries.lookup name).bind (at? names)

/-- The entries of a directory with `node` under a name. -/
def put (name : String) (node : Node) : List (String × Node) → List (String × Node)
  | [] => [(name, node)]
  | entry :: entries =>
    if entry.1 = name then (name, node) :: entries else entry :: put name node entries

/-- What is at a place after something was changed at the place to which names lead from it. The
directories on the way are made where they are missing. -/
def update (change : Option Node → Node) : List String → Option Node → Node
  | [], old => change old
  | name :: names, some (directory access entries) =>
    directory access (put name (update change names (entries.lookup name)) entries)
  | name :: names, _ => directory .full [(name, update change names none)]

end Node

end FileTree

structure FileTree where
  /-- What the program may do with the root. -/
  access : FileTree.Access
  entries : List (String × FileTree.Node)
  workingDirectory : List String

namespace FileTree

/-! ### Building trees -/

def root (tree : FileTree) : Node := .directory tree.access tree.entries

def update (tree : FileTree) (location : List String) (change : Option Node → Node) : FileTree :=
  match Node.update change location (some tree.root) with
  | .directory access entries => { tree with access, entries }
  | .file _ => tree

def addDirectory (tree : FileTree) (location : List String) : FileTree :=
  tree.update location fun
    | some (.directory access entries) => .directory access entries
    | _ => .directory .full []

def add (tree : FileTree) (location : List String) (node : Node) : FileTree :=
  tree.update location fun _ => node

def empty (workingDirectory : List String) : FileTree :=
  addDirectory ⟨.full, [], workingDirectory⟩ workingDirectory

/-! ### Following paths -/

def node? (tree : FileTree) (location : List String) : Option Node := tree.root.at? location

/-- Where one part of a path leads from a directory. The root is its own parent. -/
def step (location : List String) : Path.Part → List String
  | .root => []
  | .here => location
  | .parent => location.dropLast
  | .name name => location ++ [name]

/-- Follows pieces of a path from a place. Only a directory can be gone on from, and only a slash
too many does not lead through it. -/
def follow (tree : FileTree) (location : List String) : List String → Except ReadError Node
  | [] =>
    match tree.node? location with
    | none => .error .notFound
    | some node => .ok node
  | piece :: pieces =>
    match tree.node? location with
    | none => .error .notFound
    | some (.file _) => .error .notADirectory
    | some (.directory access _) =>
      if piece ≠ "" ∧ !access.enters then .error .permissionDenied
      else tree.follow (((Path.part? piece).map (step location)).getD location) pieces

def find (tree : FileTree) (path : Path) : Except ReadError Node :=
  if path.text.toList.contains '\x00' then .error .nulInPath
  else if path.text = "" then .error .notFound
  else tree.follow (if path.isAbsolute then [] else tree.workingDirectory) path.pieces

def read (tree : FileTree) (path : Path) : Except ReadError String := do
  match ← tree.find path with
  | .file content => content.read
  | .directory access _ => throw (if access.lists then .isADirectory else .permissionDenied)

def exists? (tree : FileTree) (path : Path) : Bool := (tree.find path).isOk

def isDirectory (tree : FileTree) (path : Path) : Bool :=
  match tree.find path with
  | .ok (.directory ..) => true
  | _ => false

def isFile (tree : FileTree) (path : Path) : Bool :=
  match tree.find path with
  | .ok (.file _) => true
  | _ => false

/-! ### Spellings of a path -/

section Spellings

variable {tree : FileTree} {path path' : Path}

theorem follow_eq_ok {pieces location : List String} {node : Node}
    (h : tree.follow location pieces = .ok node) :
    tree.node? ((pieces.filterMap Path.part?).foldl step location) = some node := by
  induction pieces generalizing location with
  | nil =>
    rw [follow] at h
    split at h
    · cases h
    next found hfound => rw [List.filterMap_nil, List.foldl_nil, hfound, ← Except.ok.inj h]
  | cons piece pieces ih =>
    rw [follow] at h
    split at h
    · cases h
    · cases h
    · split at h
      · cases h
      · cases hpart : Path.part? piece with
        | none =>
          rw [hpart] at h
          rw [List.filterMap_cons_none hpart]
          exact ih h
        | some part =>
          rw [hpart] at h
          rw [List.filterMap_cons_some hpart, List.foldl_cons]
          exact ih h

/-- A path leads where its parts lead from the working directory. -/
theorem find_eq_ok {node : Node} (h : tree.find path = .ok node) :
    tree.node? (path.parts.foldl step tree.workingDirectory) = some node := by
  unfold find at h
  split at h
  · cases h
  · split at h
    · cases h
    · have followed := follow_eq_ok h
      unfold Path.parts
      by_cases absolute : path.isAbsolute
      · rw [if_pos absolute] at followed ⊢
        exact followed
      · rw [if_neg absolute] at followed ⊢
        split
        · exact followed
        · exact followed

theorem isFile_iff : tree.isFile path ↔ ∃ content, tree.find path = .ok (.file content) := by
  unfold isFile
  constructor
  · intro h
    split at h
    next content hfind => exact ⟨content, hfind⟩
    · cases h
  · rintro ⟨content, hfind⟩
    rw [hfind]

theorem read_of_find_eq_ok {content : Content} (h : tree.find path = .ok (.file content)) :
    tree.read path = content.read := by
  rw [read, h]
  rfl

theorem read_eq_of_same (h : tree.isFile path) (h' : tree.isFile path') (same : path.same path') :
    tree.read path = tree.read path' := by
  obtain ⟨content, hfind⟩ := isFile_iff.1 h
  obtain ⟨content', hfind'⟩ := isFile_iff.1 h'
  have parts : path.parts = path'.parts := of_decide_eq_true same
  have found := find_eq_ok hfind
  rw [parts, find_eq_ok hfind'] at found
  obtain rfl := Node.file.inj (Option.some.inj found)
  rw [read_of_find_eq_ok hfind, read_of_find_eq_ok hfind']

end Spellings

/-! ### Listing directories -/

/-- Something that is come to below a directory, by the names that lead to it. -/
inductive Sight
  | entry (names : List String) (isDirectory : Bool)
  /-- A directory that the program is not allowed to list. -/
  | locked (names : List String)
  deriving DecidableEq

def Sight.within (name : String) : Sight → Sight
  | entry names isDirectory => entry (name :: names) isDirectory
  | locked names => locked (name :: names)

/-- What is sorted by names, in the order of the names. -/
def inOrder {α : Type} (l : List (String × α)) : List (String × α) :=
  l.mergeSort fun p q => (compare p.1 q.1).isLE

mutual

/-- All that is come to below a node; `entered` tells whether paths may lead to the node. What lies in
a directory follows the directory. -/
def Node.sights (entered : Bool) : Node → List Sight
  | .file _ => []
  | .directory access entries =>
    if entered ∧ access.lists then
      (inOrder (entrySights access.enters entries)).flatMap (·.2)
    else [.locked []]

def entrySights (entered : Bool) : List (String × Node) → List (String × List Sight)
  | [] => []
  | (name, node) :: entries =>
    let inside := (node.sights entered).map (Sight.within name)
    (name, .entry [name] node.isDirectory :: inside) :: entrySights entered entries

end

/-- Whether a path leads to a directory that the program is not allowed to list. -/
def isLocked (tree : FileTree) (path : Path) : Bool :=
  match tree.find path with
  | .ok (.directory access _) => !access.lists
  | .error .permissionDenied => true
  | _ => false

/-- What is in the directory to which a path leads: each name in order, and whether it is that of a
directory. -/
def names (tree : FileTree) (path : Path) : List (String × Bool) :=
  match tree.find path with
  | .ok (.directory _ entries) => inOrder (entries.map fun p => (p.1, p.2.isDirectory))
  | _ => []

def below (tree : FileTree) (path : Path) : List Sight :=
  match tree.find path with
  | .ok node => node.sights true
  | .error .permissionDenied => [.locked []]
  | .error _ => []

end FileTree

end IconImports
