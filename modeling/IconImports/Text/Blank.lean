/-!
# White space

`isBlank` is membership in the Unicode property `White_Space`, given as a table of ranges. On top
of it stand `blanks?`, which reads one run of blanks, and `trimBlanks`, which removes the blanks
at both ends of a text.
-/

namespace IconImports

/-- The ranges of code points that have the property `White_Space`, ends included. -/
def blankRanges : List (Nat × Nat) :=
  [(0x0009, 0x000D), (0x0020, 0x0020), (0x0085, 0x0085), (0x00A0, 0x00A0), (0x1680, 0x1680),
    (0x2000, 0x200A), (0x2028, 0x2029), (0x202F, 0x202F), (0x205F, 0x205F), (0x3000, 0x3000)]

def isBlank (c : Char) : Bool :=
  blankRanges.any fun r => r.1 ≤ c.toNat && c.toNat ≤ r.2

/-- A run of at least one blank at the start of `s`, as long as possible, and what follows it. -/
def blanks? (s : List Char) : Option (List Char × List Char) :=
  let gap := s.takeWhile isBlank
  if gap = [] then none else some (gap, s.dropWhile isBlank)

def trimBlanks (s : List Char) : List Char :=
  ((s.dropWhile isBlank).reverse.dropWhile isBlank).reverse

theorem eq_append_of_blanks? {s gap rest : List Char} (h : blanks? s = some (gap, rest)) :
    s = gap ++ rest ∧ gap ≠ [] ∧ ∀ c ∈ gap, isBlank c = true := by
  simp only [blanks?] at h
  split at h
  · simp at h
  next hne =>
    simp only [Option.some.injEq, Prod.mk.injEq] at h
    obtain ⟨rfl, rfl⟩ := h
    exact ⟨List.takeWhile_append_dropWhile.symm, hne,
      fun c hc => List.all_eq_true.1 List.all_takeWhile c hc⟩

end IconImports
