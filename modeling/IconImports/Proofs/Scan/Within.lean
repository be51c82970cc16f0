import IconImports.Proofs.Scan.Complete

/-!
# Where a statement stands in its source

A match tells by byte offsets where its statement stands, and where the name of the package stands in
it. It is `Within` a source if these offsets come in the right order and lie between characters of the
source, and if all that the match reports is found there.

The main statement: what a scan finds is within its source (`within_of_mem_scan`).
-/

namespace IconImports

/-- The statement stands in the source where the match says. -/
structure Match.Within (m : Match) (source : String) : Prop where
  start_lt : m.range.start < m.package.start
  package : m.package.stop = m.package.start + 4
  stop_le : m.package.stop ≤ m.range.stop
  le_size : m.range.stop ≤ source.utf8ByteSize
  /-- No offset lies inside a character. -/
  boundaries : ∀ offset ∈ [m.range.start, m.package.start, m.package.stop, m.range.stop],
    (String.Pos.Raw.mk offset).IsValid source
  text : slice? source m.range = some m.text
  token : slice? source m.package = some packageName
  /-- The contents of the list stand in the statement before the name of the package. -/
  content : ∃ span, m.range.start ≤ span.start ∧ span.stop ≤ m.package.start ∧
    slice? source span = some m.content
  /-- A variant stands in the statement behind that name. -/
  variant : ∀ v ∈ m.variant, ∃ span, m.package.stop ≤ span.start ∧ span.stop ≤ m.range.stop ∧
    slice? source span = some v

theorem exists_span_of_part {s : String} {a p b x w y : List Char} (h : s.toList = a ++ p ++ b)
    (hp : p = x ++ w ++ y) :
    ∃ span, byteLength a ≤ span.start ∧ span.stop ≤ byteLength (a ++ p) ∧
      slice? s span = some (String.ofList w) := by
  have around : s.toList = a ++ x ++ w ++ (y ++ b) := by simp [h, hp]
  refine ⟨_, ?_, ?_, slice?_of_toList_eq around⟩
  · show byteLength a ≤ byteLength (a ++ x)
    rw [byteLength_append]
    omega
  · show byteLength (a ++ x ++ w) ≤ byteLength (a ++ p)
    simp only [hp, byteLength_append]
    omega

namespace Statement

variable {source : String} {u rest : List Char}

theorem start_lt_package_matchAt (st : Statement) (start : Nat) :
    (st.matchAt start).range.start < (st.matchAt start).package.start := by
  have word : 0 < byteLength importWord := by decide
  simp only [matchAt, beforePackage, byteLength_append]
  omega

theorem package_le_stop_matchAt (st : Statement) (start : Nat) :
    (st.matchAt start).package.stop ≤ (st.matchAt start).range.stop := by
  simp only [matchAt, text, textWith, byteLength_append]
  omega

theorem within_matchAt (st : Statement) (h : source.toList = u ++ (st.text ++ rest)) :
    (st.matchAt (byteLength u)).Within source := by
  have whole : u ++ st.text = u ++ st.beforePackage ++ packageWord ++ st.afterPackage := by
    simp [text, textWith]
  rw [← List.append_assoc, whole] at h
  have range := st.range_matchAt u
  have package := st.package_matchAt u
  have text : slice? source (st.matchAt (byteLength u)).range = some (String.ofList st.text) := by
    rw [range]
    exact slice?_of_toList_eq (c := rest) (by rw [h, whole])
  have token : slice? source (st.matchAt (byteLength u)).package = some packageName := by
    rw [package, slice?_of_toList_eq (c := st.afterPackage ++ rest) (by simp [h]), packageWord_eq,
      String.ofList_toList]
  obtain ⟨start, stop, -⟩ := isSome_slice?_iff.1 (Option.isSome_of_eq_some text)
  obtain ⟨start', stop', -⟩ := isSome_slice?_iff.1 (Option.isSome_of_eq_some token)
  constructor
  case start_lt => exact st.start_lt_package_matchAt _
  case package => rfl
  case stop_le => exact st.package_le_stop_matchAt _
  case le_size => exact stop.le_utf8ByteSize
  case boundaries => simp [start, stop, start', stop']
  case text => exact text
  case token => exact token
  case content =>
    have before : st.beforePackage = importWord ++ st.gapBeforeBrace ++ ['\x7b'] ++ st.content ++
        (['\x7d'] ++ st.gapAfterBrace ++ fromWord ++ st.gapBeforeQuote ++ [st.openQuote]) := by
      simp [beforePackage]
    rw [range, package]
    exact exists_span_of_part (b := packageWord ++ st.afterPackage ++ rest) (by simp [h]) before
  case variant =>
    intro v hv
    obtain ⟨w, hw, rfl⟩ := Option.map_eq_some_iff.1 hv
    have after : st.afterPackage =
        ['/'] ++ w ++ ([st.closeQuote] ++ if st.semicolon then [';'] else []) := by
      simp [afterPackage, variantText, hw]
    rw [range, package, whole]
    exact exists_span_of_part h after

end Statement

/-- What a scan finds stands in its source. -/
theorem within_of_mem_scan {source : String} {m : Match} (h : m ∈ scan source) :
    m.Within source := by
  obtain ⟨u, v, st, rest, e, hread, rfl⟩ := mem_scan_iff.1 h
  obtain ⟨-, rfl⟩ := Statement.wellFormed_and_eq_of_read? hread
  exact st.within_matchAt e

end IconImports
