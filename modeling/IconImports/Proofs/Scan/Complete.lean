import IconImports.Proofs.Scan.Search

/-!
# A scan finds every statement

A statement `StandsAt` a byte of a source if the source goes on there with the text of the statement
up to its closing quote. `scan` goes on behind the statements that it finds, and tries no other
place in them; it finds all the statements nevertheless, since none starts within another one
(`mem_matchesFrom_cut`).

The main statement: what is found are the statements of the source, each at its place, in order
(`scan_finds`).
-/

namespace IconImports

/-- The text of the statement, up to its closing quote, is in the source from byte `start` on. -/
structure Statement.StandsAt (st : Statement) (source : String) (start : Nat) : Prop where
  wellFormed : st.WellFormed
  semicolon : st.semicolon = false
  slice : slice? source ⟨start, start + byteLength st.text⟩ = some (String.ofList st.text)

namespace Segments

/-! ### Matches stand one after the other -/

theorem start_lt_stop_matchAt (st : Statement) (start : Nat) :
    (st.matchAt start).range.start < (st.matchAt start).range.stop := by
  have word : 0 < byteLength Statement.importWord := by decide
  simp only [Statement.matchAt, Statement.text_eq, Statement.opening, byteLength_append]
  omega

theorem le_start_of_mem {offset : Nat} {statements : List (List Char × Statement)} {found : Match}
    (h : found ∈ matchesFrom offset statements) : offset ≤ found.range.start := by
  induction statements generalizing offset with
  | nil => cases h
  | cons p statements ih =>
    obtain ⟨before, st⟩ := p
    rw [matchesFrom, List.mem_cons] at h
    obtain rfl | h := h
    · exact Nat.le_add_right _ _
    · have := ih h
      simp only [Statement.matchAt] at this
      omega

theorem pairwise_matchesFrom (offset : Nat) (statements : List (List Char × Statement)) :
    (matchesFrom offset statements).Pairwise fun m m' => m.range.stop ≤ m'.range.start := by
  induction statements generalizing offset with
  | nil => exact .nil
  | cons p statements ih => exact .cons (fun _ => le_start_of_mem) (ih _)

/-! ### No statement is missed -/

/-- A place at which a statement can be read is passed only in order to read the statement. -/
theorem mem_matchesFrom_cut {a before s : List Char} {found : Match} :
    found ∈ matchesFrom (byteLength a) (cut before s).statements ↔
      ∃ u v st rest, s = u ++ v ∧ Statement.read? v = some (st, rest) ∧
        found = st.matchAt (byteLength (a ++ before.reverse ++ u)) := by
  fun_induction cut before s generalizing a
  case case1 before s st rest h segments ih =>
    obtain ⟨hst, rfl⟩ := Statement.wellFormed_and_eq_of_read? h
    rw [matchesFrom_cons, List.mem_cons, ih]
    constructor
    · rintro (rfl | ⟨u, v, st', rest', rfl, hread, rfl⟩)
      · exact ⟨[], _, st, rest, rfl, h, by rw [List.append_nil]⟩
      · exact ⟨st.text ++ u, v, st', rest', by rw [List.append_assoc], hread, by simp⟩
    · rintro ⟨u, v, st', rest', e, hread, rfl⟩
      by_cases hu : u = []
      · subst hu
        obtain rfl : st.text ++ rest = v := e
        obtain ⟨rfl, -⟩ : st = st' ∧ rest = rest' := by simpa [h] using hread
        exact .inl (by rw [List.append_nil])
      · by_cases hlt : u.length < st.text.length
        · rw [Statement.read?_eq_none_of_within hst Statement.not_mem_packageWord e hu hlt] at hread
          cases hread
        · obtain ⟨u, rfl, rfl⟩ : ∃ w, u = st.text ++ w ∧ rest = w ++ v := by
            obtain h | ⟨w, hw, rfl⟩ := List.append_eq_append_iff.1 e
            · exact h
            · rw [hw, List.length_append, Nat.not_lt] at hlt
              obtain rfl : w = [] := List.eq_nil_of_length_eq_zero (by omega)
              exact ⟨[], by simpa using hw.symm, rfl⟩
          exact .inr ⟨u, v, st', rest', rfl, hread, by simp⟩
  case case2 before h =>
    constructor
    · intro hmem
      cases hmem
    · rintro ⟨u, v, st, rest, e, hread, -⟩
      obtain ⟨rfl, rfl⟩ := List.nil_eq_append_iff.1 e
      rw [h] at hread
      cases hread
  case case3 before c s h ih =>
    rw [ih]
    constructor
    · rintro ⟨u, v, st, rest, rfl, hread, rfl⟩
      exact ⟨c :: u, v, st, rest, rfl, hread, by simp⟩
    · rintro ⟨u, v, st, rest, e, hread, rfl⟩
      cases u with
      | nil =>
        obtain rfl : c :: s = v := e
        rw [h] at hread
        cases hread
      | cons d u =>
        obtain ⟨rfl, rfl⟩ := List.cons.inj e
        exact ⟨u, v, st, rest, rfl, hread, by simp⟩

end Segments

/-! ### What a scan finds -/

namespace Statement

variable {source : String} {st st' : Statement} {start : Nat}

theorem standsAt_iff :
    st.StandsAt source start ↔ st.WellFormed ∧ st.semicolon = false ∧
      ∃ u rest, source.toList = u ++ (st.text ++ rest) ∧ byteLength u = start := by
  constructor
  · rintro ⟨hst, hs, hslice⟩
    obtain ⟨a, c, rfl, hspan⟩ := slice?_eq_some_iff.1 hslice
    have length : byteLength a.toList = start := by
      rw [byteLength_toList]
      exact congrArg Span.start hspan.symm
    exact ⟨hst, hs, a.toList, c.toList, by simp, length⟩
  · rintro ⟨hst, hs, u, rest, e, rfl⟩
    rw [← List.append_assoc] at e
    refine ⟨hst, hs, ?_⟩
    rw [← byteLength_append]
    exact slice?_of_toList_eq e

theorem text_with_semicolon (h : st.semicolon = false) (semicolon : Bool) :
    { st with semicolon }.text = st.text ++ if semicolon then [';'] else [] := by
  simp [text, textWith, beforePackage, afterPackage, h]

theorem StandsAt.unique (h : st.StandsAt source start) (h' : st'.StandsAt source start) :
    st = st' := by
  obtain ⟨hst, hs, u, rest, e, rfl⟩ := standsAt_iff.1 h
  obtain ⟨hst', hs', u', rest', e', hu⟩ := standsAt_iff.1 h'
  obtain ⟨rfl, e⟩ := append_inj_of_byteLength_eq (e.symm.trans e') hu.symm
  exact eq_of_text_append_eq hst hst' hs hs' e

theorem fst_semicolonPart_eq {a rest : List Char} (h : source.toList = a ++ rest) :
    (semicolonPart rest).1 =
      decide (slice? source ⟨byteLength a, byteLength a + 1⟩ = some ";") := by
  have next : (∃ t, rest = ';' :: t) ↔
      slice? source ⟨byteLength a, byteLength a + 1⟩ = some ";" := by
    constructor
    · rintro ⟨t, rfl⟩
      have slice := slice?_of_toList_eq (a := a) (b := [';']) (c := t) (by simpa using h)
      rwa [byteLength_append] at slice
    · intro hslice
      obtain ⟨x, y, rfl, hspan⟩ := slice?_eq_some_iff.1 hslice
      have e : a ++ rest = x.toList ++ ';' :: y.toList := by simpa using h.symm
      have hlen : byteLength a = byteLength x.toList := by
        rw [byteLength_toList]
        exact congrArg Span.start hspan
      exact ⟨y.toList, (append_inj_of_byteLength_eq e hlen).2⟩
  rw [Bool.eq_iff_iff, decide_eq_true_iff, ← next]
  fun_cases semicolonPart rest with
  | case1 t =>
    constructor
    · intro _
      exact ⟨t, rfl⟩
    · intro _
      rfl
  | case2 s hs =>
    constructor
    · intro h
      cases h
    · rintro ⟨t, ht⟩
      exact (hs t ht).elim

end Statement

theorem mem_scan_iff {source : String} {found : Match} :
    found ∈ scan source ↔ ∃ u v st rest, source.toList = u ++ v ∧
      Statement.read? v = some (st, rest) ∧ found = st.matchAt (byteLength u) :=
  Segments.mem_matchesFrom_cut (a := [])

theorem mem_scan_iff_standsAt {source : String} {found : Match} :
    found ∈ scan source ↔ ∃ (st : Statement) (start : Nat), st.StandsAt source start ∧
      let stop := start + byteLength st.text
      let semicolon := decide (slice? source ⟨stop, stop + 1⟩ = some ";")
      found = { st with semicolon }.matchAt start := by
  have follows {u rest : List Char} {st : Statement} (e : source.toList = u ++ (st.text ++ rest)) :
      (Statement.semicolonPart rest).1 = decide (slice? source
        ⟨byteLength u + byteLength st.text, byteLength u + byteLength st.text + 1⟩ = some ";") := by
    rw [← List.append_assoc] at e
    rw [Statement.fst_semicolonPart_eq e, byteLength_append]
  rw [mem_scan_iff]
  constructor
  · rintro ⟨u, v, st, rest, e, hread, rfl⟩
    obtain ⟨hst, rfl⟩ := Statement.wellFormed_and_eq_of_read? hread
    let st' : Statement := { st with semicolon := false }
    let rest' := (if st.semicolon then [';'] else []) ++ rest
    have hst' : st'.WellFormed := ⟨hst.1, hst.2, hst.3, hst.4, hst.5, hst.6, hst.7⟩
    have text : st.text ++ rest = st'.text ++ rest' := by
      have closed : st.text = st'.text ++ if st.semicolon then [';'] else [] :=
        Statement.text_with_semicolon (rfl : st'.semicolon = false) st.semicolon
      rw [closed, List.append_assoc]
    rw [text] at e hread
    have read := Statement.read?_text_append hst' rfl rest'
    rw [hread, follows e] at read
    injection read with read
    injection read with same
    exact ⟨st', byteLength u, Statement.standsAt_iff.2 ⟨hst', rfl, u, rest', e, rfl⟩,
      congrArg (Statement.matchAt · (byteLength u)) same⟩
  · rintro ⟨st, start, hst, rfl⟩
    obtain ⟨hwf, hs, u, rest, e, rfl⟩ := Statement.standsAt_iff.1 hst
    have read := Statement.read?_text_append hwf hs rest
    rw [follows e] at read
    exact ⟨u, _, _, _, e, read, rfl⟩

/-- `found` are all statements of the source, in order. -/
structure Scanned (source : String) (found : List Match) : Prop where
  /-- They are the leftmost readings of the pattern that do not overlap. -/
  search : found =
    (importPattern.search 0 source.toList).filterMap fun x => Match.ofReading? x.1 x.2
  increasing : (found.map (·.range.start)).Pairwise (· < ·)
  /-- They start at all places at which a statement stands, and only there. -/
  complete : ∀ start, start ∈ found.map (·.range.start) ↔
    ∃ st : Statement, st.StandsAt source start
  unique : ∀ start (st st' : Statement),
    st.StandsAt source start → st'.StandsAt source start → st = st'
  /-- What is found tells of the statement that stands there. -/
  parts : ∀ m ∈ found, ∀ st : Statement, st.StandsAt source m.range.start →
    m.content = String.ofList st.content ∧ m.variant = st.variant.map String.ofList ∧
      let package := m.range.start + byteLength st.beforePackage
      m.package = ⟨package, package + 4⟩
  /-- It ends behind the closing quote, or behind the semicolon after it. -/
  stop : ∀ m ∈ found, ∀ st : Statement, st.StandsAt source m.range.start →
    let stop := m.range.start + byteLength st.text
    m.range.stop = if slice? source ⟨stop, stop + 1⟩ = some ";" then stop + 1 else stop
  nonempty : ∀ m ∈ found, m.range.start < m.range.stop
  disjoint : found.Pairwise fun m m' => m.range.stop ≤ m'.range.start

/-- A scan finds exactly the statements of a source. -/
theorem scan_finds (source : String) : Scanned source (scan source) := by
  have disjoint : (scan source).Pairwise fun m m' => m.range.stop ≤ m'.range.start :=
    Segments.pairwise_matchesFrom 0 _
  have nonempty : ∀ m ∈ scan source, m.range.start < m.range.stop := by
    intro m hm
    obtain ⟨st, -, start, rfl⟩ := exists_matchAt_of_mem_scan hm
    exact Segments.start_lt_stop_matchAt st start
  constructor
  case search => exact scan_eq_search source
  case increasing =>
    rw [List.pairwise_map]
    exact disjoint.imp_of_mem fun hm _ h => Nat.lt_of_lt_of_le (nonempty _ hm) h
  case complete =>
    intro start
    rw [List.mem_map]
    constructor
    · rintro ⟨m, hm, rfl⟩
      obtain ⟨st, start, hst, rfl⟩ := mem_scan_iff_standsAt.1 hm
      exact ⟨st, hst⟩
    · rintro ⟨st, hst⟩
      exact ⟨_, mem_scan_iff_standsAt.2 ⟨st, start, hst, rfl⟩, rfl⟩
  case unique =>
    intro start st st' h h'
    exact h.unique h'
  case parts =>
    intro m hm st hst
    obtain ⟨st', start, hst', rfl⟩ := mem_scan_iff_standsAt.1 hm
    obtain rfl := hst.unique hst'
    exact ⟨rfl, rfl, rfl⟩
  case stop =>
    intro m hm st hst
    obtain ⟨st', start, hst', rfl⟩ := mem_scan_iff_standsAt.1 hm
    obtain rfl := hst.unique hst'
    dsimp only [Statement.matchAt]
    rw [Statement.text_with_semicolon hst'.semicolon, byteLength_append]
    by_cases h : slice? source
        ⟨start + byteLength st.text, start + byteLength st.text + 1⟩ = some ";"
    · have one : byteLength [';'] = 1 := rfl
      rw [if_pos h, decide_eq_true h, if_pos rfl, one, Nat.add_assoc]
    · rw [if_neg h, decide_eq_false h, if_neg Bool.false_ne_true, byteLength_nil, Nat.add_zero]
  case nonempty => exact nonempty
  case disjoint => exact disjoint

example : (scan "import \x7b import\u2003\x7ba\x7d from 'maic';; import \x7b\x7d from \"maic/v'").map
    (·.range) = [⟨9, 34⟩, ⟨36, 59⟩] := by decide +kernel

end IconImports
