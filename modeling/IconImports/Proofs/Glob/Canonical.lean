import IconImports.FileSystem
import IconImports.Proofs.Path.Order

/-!
# Lists of paths in order, each once

`canonicalPaths` puts paths in order and then drops those that count as equal to the one before. Equal
paths stand side by side in the sorted list, and among themselves in the order in which they were
given (`filter_mergeSort`), so of each path one spelling is left, and it is the one that was given
first (`canonical_canonicalPaths`).

A list with this property is `Canonical`. It has no other path in it than those that stand first among
their equals (`Canonical.mem_iff`), and two of them agree up to spelling where the given paths do
(`Canonical.map_parts_eq`).
-/

namespace IconImports

/-- In `paths`, every path of `all` stands once and in its first spelling, and the paths stand in
order. -/
structure Canonical (all paths : List Path) : Prop where
  increasing : paths.Pairwise Path.Precedes
  first : ∀ path ∈ paths, all.find? (·.same path) = some path
  complete : ∀ path ∈ all, ∃ kept ∈ paths, kept.same path = true

section

variable {a b path : Path} {l all all' paths paths' : List Path}

theorem find?_cons_of_same (h : a.same path = true) (l : List Path) :
    (a :: l).find? (·.same path) = some a := List.find?_cons_of_pos h

theorem find?_cons_of_not_same (h : ¬ a.same path = true) (l : List Path) :
    (a :: l).find? (·.same path) = l.find? (·.same path) := List.find?_cons_of_neg h

/-! ### Sorting -/

/-- Equal paths stay in the order in which they were given. -/
theorem filter_mergeSort (l : List Path) (path : Path) :
    (l.mergeSort Path.le).filter (·.same path) = l.filter (·.same path) := by
  have sorted : (l.filter (·.same path)).Pairwise fun a b => a.le b = true := by
    apply List.pairwise_of_forall_mem_list
    intro a ha b hb
    have ha := Path.same_iff.1 (List.mem_filter.1 ha).2
    have hb := Path.same_iff.1 (List.mem_filter.1 hb).2
    exact Path.le_of_same (Path.same_iff.2 (ha.trans hb.symm))
  have sublist : (l.filter (·.same path)).Sublist (l.mergeSort Path.le) :=
    List.sublist_mergeSort Path.le_trans Path.le_total sorted List.filter_sublist
  have filtered := sublist.filter (·.same path)
  rw [List.filter_filter] at filtered
  simp only [Bool.and_self] at filtered
  have perm := (List.mergeSort_perm l Path.le).filter (·.same path)
  exact (filtered.eq_of_length perm.length_eq.symm).symm

theorem find?_mergeSort (l : List Path) (path : Path) :
    (l.mergeSort Path.le).find? (·.same path) = l.find? (·.same path) := by
  rw [← List.head?_filter, filter_mergeSort, List.head?_filter]

theorem Canonical.of_mergeSort (h : Canonical (l.mergeSort Path.le) paths) : Canonical l paths where
  increasing := h.increasing
  first path hpath := (find?_mergeSort l path).symm.trans (h.first path hpath)
  complete path hpath := h.complete path (List.mem_mergeSort.2 hpath)

/-! ### Dropping repetitions -/

theorem canonical_singleton (a : Path) : Canonical [a] [a] where
  increasing := List.pairwise_singleton _ _
  first path hpath := by
    rw [List.mem_singleton.1 hpath]
    exact find?_cons_of_same (Path.same_refl a) []
  complete path hpath := by
    rw [List.mem_singleton.1 hpath]
    exact ⟨a, List.mem_singleton_self a, Path.same_refl a⟩

theorem Canonical.drop (h : Canonical (a :: l) paths) (same : a.same b = true) :
    Canonical (a :: b :: l) paths where
  increasing := h.increasing
  first path hpath := by
    have first := h.first path hpath
    by_cases ha : a.same path = true
    · rw [find?_cons_of_same ha] at first ⊢
      exact first
    · have hb : ¬ b.same path = true := by
        rwa [Path.same_comm, ← Path.same_congr same, Path.same_comm]
      rw [find?_cons_of_not_same ha] at first ⊢
      rwa [find?_cons_of_not_same hb]
  complete path hpath := by
    rw [List.mem_cons, List.mem_cons] at hpath
    rcases hpath with rfl | rfl | hpath
    · exact h.complete path List.mem_cons_self
    · obtain ⟨kept, hkept, hsame⟩ := h.complete a List.mem_cons_self
      exact ⟨kept, hkept, by rwa [← Path.same_congr same]⟩
    · exact h.complete path (List.mem_cons_of_mem a hpath)

theorem Canonical.cons (h : Canonical l paths) (precedes : ∀ path ∈ l, a.Precedes path) :
    Canonical (a :: l) (a :: paths) where
  increasing := by
    refine List.pairwise_cons.2 ⟨fun path hpath => ?_, h.increasing⟩
    exact precedes path (List.mem_of_find?_eq_some (h.first path hpath))
  first path hpath := by
    rcases List.mem_cons.1 hpath with rfl | hpath
    · exact find?_cons_of_same (Path.same_refl path) l
    · have first := h.first path hpath
      have other := (precedes path (List.mem_of_find?_eq_some first)).same_eq_false
      rwa [find?_cons_of_not_same (Bool.not_eq_true _ ▸ other)]
  complete path hpath := by
    rcases List.mem_cons.1 hpath with rfl | hpath
    · exact ⟨path, List.mem_cons_self, Path.same_refl path⟩
    · obtain ⟨kept, hkept, hsame⟩ := h.complete path hpath
      exact ⟨kept, List.mem_cons_of_mem a hkept, hsame⟩

/-- Where the paths are in order, it is enough to compare each with the one kept last. -/
theorem canonical_keep (sorted : (a :: l).Pairwise fun a b => a.le b = true) :
    Canonical (a :: l) (dropRepeats.keep Path.same a l) := by
  induction l generalizing a with
  | nil => exact canonical_singleton a
  | cons b l ih =>
    obtain ⟨le, tail⟩ := List.pairwise_cons.1 sorted
    rw [dropRepeats.keep]
    by_cases same : a.same b = true
    · rw [if_pos same]
      have shorter : (a :: l).Pairwise fun a b => a.le b = true :=
        List.pairwise_cons.2
          ⟨fun path hpath => le path (List.mem_cons_of_mem b hpath), (List.pairwise_cons.1 tail).2⟩
      exact (ih shorter).drop same
    · rw [if_neg same]
      apply (ih tail).cons
      have first : a.Precedes b := (Path.le_iff.1 (le b List.mem_cons_self)).resolve_right same
      intro path hpath
      rcases List.mem_cons.1 hpath with rfl | hpath
      · exact first
      · exact first.trans_le ((List.pairwise_cons.1 tail).1 path hpath)

theorem canonical_canonicalPaths (all : List Path) : Canonical all (canonicalPaths all) := by
  apply Canonical.of_mergeSort
  have sorted := List.pairwise_mergeSort Path.le_trans Path.le_total all
  unfold canonicalPaths
  cases hl : all.mergeSort Path.le with
  | nil => exact ⟨.nil, nofun, nofun⟩
  | cons a l =>
    rw [hl] at sorted
    exact canonical_keep sorted

/-! ### What a canonical list holds -/

namespace Canonical

theorem mem_iff (h : Canonical all paths) : path ∈ paths ↔ all.find? (·.same path) = some path := by
  refine ⟨h.first path, fun found => ?_⟩
  obtain ⟨kept, hkept, same⟩ := h.complete path (List.mem_of_find?_eq_some found)
  have first := h.first kept hkept
  simp only [Path.same_congr same] at first
  rw [first] at found
  rwa [← Option.some.inj found]

theorem exists_same_iff (h : Canonical all paths) :
    (∃ kept ∈ paths, kept.same path = true) ↔ ∃ given ∈ all, given.same path = true := by
  constructor
  · rintro ⟨kept, hkept, same⟩
    exact ⟨kept, List.mem_of_find?_eq_some (h.first kept hkept), same⟩
  · rintro ⟨given, hgiven, same⟩
    obtain ⟨kept, hkept, same'⟩ := h.complete given hgiven
    exact ⟨kept, hkept, by rwa [← Path.same_congr same]⟩

/-- Lists that hold the same paths, be it in other spellings, have the same canonical list up to
spelling. -/
theorem map_parts_eq (h : Canonical all paths) (h' : Canonical all' paths')
    (same : ∀ path, (∃ given ∈ all, given.same path = true) ↔ ∃ given ∈ all', given.same path = true) :
    paths.map Path.parts = paths'.map Path.parts := by
  apply Path.map_parts_eq_of_pairwise h.increasing h'.increasing
  intro path
  rw [h.exists_same_iff, h'.exists_same_iff, same]

/-- Of paths that are given in two lists, the spellings of the first list are kept. -/
theorem mem_append_iff {both : List Path} (h : Canonical all paths) (h' : Canonical all' paths')
    (hboth : Canonical (all ++ all') both) :
    path ∈ both ↔ path ∈ paths ∨ path ∈ paths' ∧ ∀ kept ∈ paths, kept.same path = false := by
  have missing : all.find? (·.same path) = none ↔ ∀ kept ∈ paths, kept.same path = false := by
    simpa [List.find?_eq_none] using not_congr h.exists_same_iff.symm
  rw [hboth.mem_iff, h.mem_iff, h'.mem_iff, ← missing, List.find?_append, Option.or_eq_some_iff,
    and_comm]

end Canonical

end

end IconImports
