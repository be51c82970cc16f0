import IconImports.Proofs.Glob.Matched

/-!
# What patterns are expanded to

The list that patterns are expanded to is the canonical list of what they match one after the other
(`canonical_expandPatterns`). So it is the patterns as a set that decide which files it holds, and
their order decides no more than how a file is spelled.

The main statement: `expandPatterns_lists`.
-/

namespace IconImports

namespace FileSystem

variable {fs : FileSystem} {patterns : List String} {paths : List Path}

/-- `paths` is the list of the files that patterns match. -/
structure Lists (fs : FileSystem) (patterns : List String) (paths : List Path) : Prop where
  increasing : paths.Pairwise Path.Precedes
  /-- No path stands in the list twice, not even in another spelling. -/
  distinct : paths.Pairwise fun a b => a.same b = false
  matched : ∀ path, (∃ kept ∈ paths, kept.same path = true) ↔
    ∃ found, fs.Matched patterns found ∧ found.same path = true
  /-- Of the spellings of a path, the one that is found first is kept. -/
  spelling : ∀ path ∈ paths, (patterns.flatMap fs.found).find? (·.same path) = some path
  /-- Patterns in another order, or given more than once, are expanded to the same paths. -/
  regrouped : ∀ patterns', (∀ pattern, pattern ∈ patterns' ↔ pattern ∈ patterns) →
    ∃ paths', fs.expandPatterns patterns' = .ok paths' ∧
      paths'.map Path.parts = paths.map Path.parts
  /-- More patterns add the paths that are not yet there. -/
  united : ∀ patterns' paths', fs.expandPatterns patterns' = .ok paths' →
    ∃ union, fs.expandPatterns (patterns ++ patterns') = .ok union ∧
      union.Pairwise Path.Precedes ∧
      ∀ path, path ∈ union ↔ path ∈ paths ∨ path ∈ paths' ∧ ∀ kept ∈ paths, kept.same path = false

theorem matched_iff_of_mem_iff {patterns' : List String}
    (same : ∀ pattern, pattern ∈ patterns' ↔ pattern ∈ patterns) {path : Path} :
    fs.Matched patterns' path ↔ fs.Matched patterns path := by
  unfold Matched
  simp only [same]

theorem lists_of_expandPatterns_eq_ok (h : fs.expandPatterns patterns = .ok paths) :
    fs.Lists patterns paths := by
  have canonical := canonical_expandPatterns h
  constructor
  case increasing => exact canonical.increasing
  case distinct => exact canonical.increasing.imp Path.Precedes.same_eq_false
  case matched =>
    intro path
    rw [canonical.exists_same_iff]
    simp only [mem_flatMap_found_iff]
  case spelling => exact canonical.first
  case regrouped =>
    intro patterns' same
    have readable : ∀ pattern ∈ patterns', ∃ l, fs.Yields pattern l :=
      fun pattern hpattern => exists_yields h ((same pattern).1 hpattern)
    obtain ⟨paths', h'⟩ := exists_expandPatterns_eq_ok readable
    refine ⟨paths', h', (canonical_expandPatterns h').map_parts_eq canonical fun path => ?_⟩
    simp only [mem_flatMap_found_iff, matched_iff_of_mem_iff same]
  case united =>
    intro patterns' paths' h'
    have readable : ∀ pattern ∈ patterns ++ patterns', ∃ l, fs.Yields pattern l :=
      List.forall_mem_append.2 ⟨fun _ => exists_yields h, fun _ => exists_yields h'⟩
    obtain ⟨union, hunion⟩ := exists_expandPatterns_eq_ok readable
    have whole := canonical_expandPatterns hunion
    rw [List.flatMap_append] at whole
    exact ⟨union, hunion, whole.increasing,
      fun path => canonical.mem_append_iff (canonical_expandPatterns h') whole⟩

/-- Patterns that yield paths are expanded to the list of the files among these. Otherwise the first
pattern that does not is the error, be it that it is none, or that a directory on its way could not
be listed. -/
theorem expandPatterns_lists (fs : FileSystem) (patterns : List String) :
    ((∀ pattern ∈ patterns, ∃ l, fs.Yields pattern l) →
        ∃ paths, fs.expandPatterns patterns = .ok paths ∧ fs.Lists patterns paths) ∧
      ∀ before pattern after, patterns = before ++ pattern :: after →
        (∀ p ∈ before, ∃ l, fs.Yields p l) →
        (∀ e, fs.glob pattern = .error e → fs.expandPatterns patterns = .error (.invalid e)) ∧
          ∀ e, fs.Breaks pattern e → fs.expandPatterns patterns = .error (.unlisted e) := by
  constructor
  · intro readable
    obtain ⟨paths, h⟩ := exists_expandPatterns_eq_ok readable
    exact ⟨paths, h, lists_of_expandPatterns_eq_ok h⟩
  · rintro before pattern after rfl readable
    constructor
    · intro e invalid
      exact expandPatterns_eq_error readable (files_of_glob_eq_error invalid)
    · intro e breaks
      exact expandPatterns_eq_error readable breaks.files

end FileSystem

end IconImports
