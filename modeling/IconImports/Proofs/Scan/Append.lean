import IconImports.Proofs.Scan.Complete
import IconImports.Proofs.Scan.Cut

/-!
# Scans of a text in two parts

A statement may go through the place at which a text is parted, if only with its semicolon. Where
none does (`Statement.Apart`), a reader that starts in the first part reads there what it reads in
the whole (`Apart.read?_append`). So the pieces of the whole are those of its parts, one after the
other (`Segments.ofText_append`), and so are the statements that are found in it (`scan_append_of_apart`).
-/

namespace IconImports

/-- A statement that starts in `a`, where `b` follows, ends in `a`. -/
def Statement.Apart (a b : List Char) : Prop :=
  ∀ u v st rest, a = u ++ v → v ≠ [] → read? (v ++ b) = some (st, rest) → b <:+ rest

namespace Segments

/-- The pieces of a text, when `front` stands before its first piece. -/
def behind (front : List Char) : Segments → Segments
  | ⟨[], tail⟩ => ⟨[], front ++ tail⟩
  | ⟨(before, st) :: statements, tail⟩ => ⟨(front ++ before, st) :: statements, tail⟩

/-- The pieces of two texts. Between the last statement of `x` and the first of `y` stand the tail of
`x` and what comes first in `y`. -/
def append (x y : Segments) : Segments :=
  let rest := y.behind x.tail
  ⟨x.statements ++ rest.statements, rest.tail⟩

instance : Append Segments := ⟨append⟩

end Segments

def Span.shift (span : Span) (n : Nat) : Span := ⟨span.start + n, span.stop + n⟩

/-- What is found `n` bytes further on. -/
def Match.shift (found : Match) (n : Nat) : Match :=
  { found with range := found.range.shift n, package := found.package.shift n }

/-! ### Where no statement goes through -/

namespace Statement

variable {a b before : List Char}

theorem Apart.of_append (h : Apart (before ++ a) b) : Apart a b := by
  rintro u v st rest rfl hne hread
  exact h (before ++ u) v st rest (List.append_assoc ..).symm hne hread

/-- Where no statement goes through, what follows does not matter to the reader. -/
theorem Apart.read?_append (h : Apart a b) (hne : a ≠ []) :
    read? (a ++ b) = (read? a).map fun p => (p.1, p.2 ++ b) := by
  cases hwhole : read? (a ++ b) with
  | none =>
    cases hread : read? a with
    | none => rfl
    | some p =>
      obtain ⟨hst, e⟩ := wellFormed_and_eq_of_read? (show read? a = some (p.1, p.2) from hread)
      rw [e, List.append_assoc, read?_text_append_eq hst] at hwhole
      cases hwhole
  | some p =>
    obtain ⟨st, rest⟩ := p
    obtain ⟨w, rfl⟩ := h [] a st rest rfl hne hwhole
    obtain ⟨hst, e⟩ := wellFormed_and_eq_of_read? hwhole
    rw [← List.append_assoc, List.append_cancel_right_eq] at e
    subst e
    -- A semicolon that stands behind the statement in the first part stands there in the whole.
    have alone : read? (st.text ++ w) = some (st, w) := by
      rw [List.append_assoc, read?_text_append_eq_some_iff hst] at hwhole
      rw [read?_text_append_eq_some_iff hst]
      refine hwhole.imp_right fun head => ?_
      cases w with
      | nil => simp
      | cons c w => exact head
    rw [alone]
    rfl

end Statement

namespace Segments

open Statement

variable {a b : List Char}

theorem behind_behind (front front' : List Char) (segments : Segments) :
    (segments.behind front').behind front = segments.behind (front ++ front') := by
  obtain ⟨statements, tail⟩ := segments
  cases statements <;> simp [behind]

theorem cut_eq_behind (before s : List Char) :
    cut before s = (cut [] s).behind before.reverse := by
  induction s generalizing before with
  | nil => simp [cut_nil, behind]
  | cons c s ih =>
    cases hread : read? (c :: s) with
    | none =>
      rw [cut_cons_of_read?_eq_none hread, cut_cons_of_read?_eq_none hread, ih (c :: before),
        ih [c], behind_behind, List.reverse_cons, List.reverse_singleton]
    | some p =>
      rw [cut_of_read?_eq_some hread, cut_of_read?_eq_some hread]
      simp [behind]

/-- Cutting a text in two parts is cutting the first one and then the second one. -/
theorem cut_append_of_apart (h : Apart a b) (before : List Char) :
    cut before (a ++ b) = cut before a ++ cut [] b := by
  fun_induction cut before a with
  | case1 before a st rest hread segments ih =>
    obtain ⟨-, rfl⟩ := wellFormed_and_eq_of_read? hread
    have hne : st.text ++ rest ≠ [] := by
      intro e
      rw [e] at hread
      cases hread
    have whole := h.read?_append hne
    rw [hread, Option.map_some] at whole
    rw [cut_of_read?_eq_some whole, ih h.of_append]
    rfl
  | case2 before hread => exact cut_eq_behind before b
  | case3 before c s hread ih =>
    have whole := h.read?_append (List.cons_ne_nil c s)
    rw [hread, Option.map_none, List.cons_append] at whole
    have others : Apart s b := @Apart.of_append s b [c] h
    rw [List.cons_append, cut_cons_of_read?_eq_none whole, ih others]

/-- The pieces of a text in two parts are the pieces of its parts. -/
theorem ofText_append (h : Apart a b) : ofText (a ++ b) = ofText a ++ ofText b :=
  cut_append_of_apart h []

/-! ### Statements further on -/

theorem matchAt_add (st : Statement) (start n : Nat) :
    st.matchAt (start + n) = (st.matchAt start).shift n := by
  simp only [matchAt, Match.shift, Span.shift, Nat.add_right_comm]

theorem matchesFrom_add (offset n : Nat) (statements : List (List Char × Statement)) :
    matchesFrom (offset + n) statements = (matchesFrom offset statements).map (·.shift n) := by
  induction statements generalizing offset with
  | nil => rfl
  | cons p statements ih =>
    obtain ⟨before, st⟩ := p
    have further : offset + n + byteLength before = offset + byteLength before + n := by omega
    have stop : ((st.matchAt (offset + byteLength before)).shift n).range.stop =
        (st.matchAt (offset + byteLength before)).range.stop + n := rfl
    rw [matchesFrom, matchesFrom, further, matchAt_add, stop, ih]
    rfl

theorem matchesFrom_behind (offset : Nat) (front : List Char) (segments : Segments) :
    matchesFrom offset (segments.behind front).statements =
      matchesFrom (offset + byteLength front) segments.statements := by
  obtain ⟨statements, tail⟩ := segments
  cases statements with
  | nil => rfl
  | cons p statements => simp [behind, matchesFrom, Nat.add_assoc]

theorem matchesFrom_append (offset : Nat) (x y : Segments) :
    matchesFrom offset (x ++ y).statements = matchesFrom offset x.statements ++
      matchesFrom (offset + byteLength x.text) y.statements := by
  obtain ⟨statements, tail⟩ := x
  induction statements generalizing offset with
  | nil => exact matchesFrom_behind offset tail y
  | cons p statements ih =>
    obtain ⟨before, st⟩ := p
    have others := ih (st.matchAt (offset + byteLength before)).range.stop
    have length : (st.matchAt (offset + byteLength before)).range.stop +
        byteLength (mk statements tail).text =
        offset + byteLength (mk ((before, st) :: statements) tail).text := by
      simp [matchAt, text_cons, Statement.text, Statement.textWith, Nat.add_assoc]
    rw [length] at others
    exact congrArg (st.matchAt (offset + byteLength before) :: ·) others

end Segments

/-- Where no statement goes through, the statements of the whole are those of its parts. -/
theorem scan_append_of_apart {a b : String} (h : Statement.Apart a.toList b.toList) :
    scan (a ++ b) = scan a ++ (scan b).map (·.shift a.utf8ByteSize) := by
  rw [scan, String.toList_append, Segments.ofText_append h, Segments.matchesFrom_append,
    Segments.text_ofText, byteLength_toList, Segments.matchesFrom_add]
  rfl

theorem apart_of_scan {a b : String}
    (h : ∀ m ∈ scan (a ++ b), ¬(m.range.start < a.utf8ByteSize ∧ a.utf8ByteSize < m.range.stop)) :
    Statement.Apart a.toList b.toList := by
  rintro u v st rest e hne hread
  have whole : (a ++ b).toList = u ++ (v ++ b.toList) := by
    rw [String.toList_append, e, List.append_assoc]
  obtain ⟨-, read⟩ := Statement.wellFormed_and_eq_of_read? hread
  have within := h _ (mem_scan_iff.2 ⟨u, _, st, rest, whole, hread, rfl⟩)
  have pos : 0 < byteLength v := by
    obtain ⟨c, v, rfl⟩ := List.exists_cons_of_ne_nil hne
    exact Nat.add_pos_left c.utf8Size_pos _
  rw [Statement.range_matchAt, ← byteLength_toList, e] at within
  simp only [byteLength_append] at within
  obtain ⟨w, ht, -⟩ | ⟨w, -, rest_eq⟩ := List.append_eq_append_iff.1 read
  · have length := congrArg byteLength ht
    rw [byteLength_append] at length
    have same : byteLength v = byteLength st.text := by omega
    obtain ⟨-, rfl⟩ := append_inj_of_byteLength_eq read same
    exact List.suffix_rfl
  · exact ⟨w, rest_eq.symm⟩

end IconImports
