import IconImports.Statement
import IconImports.Text.Extent

/-!
# A text cut at its statements

`Segments.ofText` cuts a text at every aggregate import statement, from left to right: after a
statement the search goes on where the statement ends. `Segments.textWith` prints the pieces with
a token of its own in the place of each statement's package name, and `scan` lists the statements
with their byte offsets.

The main statement: the pieces are the text (`text_ofText`).
-/

namespace IconImports

/-- A text as its statements, each with the text between it and the statement before, and the
text that follows the last one. -/
structure Segments where
  statements : List (List Char × Statement)
  tail : List Char
  deriving DecidableEq

namespace Segments

/-- Cuts `s`. What was passed since the last statement is in `before`, last character first. -/
def cut (before s : List Char) : Segments :=
  match _h : Statement.read? s with
  | some (st, rest) =>
    let segments := cut [] rest
    ⟨(before.reverse, st) :: segments.statements, segments.tail⟩
  | none =>
    match s with
    | [] => ⟨[], before.reverse⟩
    | c :: s => cut (c :: before) s
termination_by s.length
decreasing_by
  · exact Statement.length_lt_of_read? _h
  · simp

def ofText (s : List Char) : Segments := cut [] s

/-- The text with the package name of each statement replaced by the token of the same number. -/
def textWith (segments : Segments) (tokens : List (List Char)) : List Char :=
  (segments.statements.zipWith (fun p token => p.1 ++ p.2.textWith token) tokens).flatten ++
    segments.tail

def text (segments : Segments) : List Char :=
  (segments.statements.flatMap fun p => p.1 ++ p.2.text) ++ segments.tail

theorem text_cut (before s : List Char) : (cut before s).text = before.reverse ++ s := by
  fun_induction cut before s with
  | case1 before s st rest h segments ih =>
    have ih : text segments = rest := by simpa using ih
    have hs := (Statement.wellFormed_and_eq_of_read? h).2
    rw [hs]
    conv => rhs; rw [← ih]
    simp [text]
  | case2 before h => simp [text]
  | case3 before c s h ih => simpa using ih

theorem wellFormed_of_mem_cut {before s : List Char} {st : Statement}
    (h : st ∈ (cut before s).statements.map Prod.snd) : st.WellFormed := by
  fun_induction cut before s with
  | case1 before s st' rest hread segments ih =>
    rw [List.map_cons, List.mem_cons] at h
    obtain rfl | h := h
    · exact (Statement.wellFormed_and_eq_of_read? hread).1
    · exact ih h
  | case2 before h' => cases h
  | case3 before c s h' ih => exact ih h

@[simp]
theorem text_ofText (s : List Char) : (ofText s).text = s := by
  simp [ofText, text_cut]

end Segments

/-! ### Statements with their byte offsets -/

structure Match where
  range : Span
  package : Span
  content : String
  variant : Option String
  text : String
  deriving DecidableEq

/-- The statement `st` as it is found `start` bytes into a text. -/
def Statement.matchAt (st : Statement) (start : Nat) : Match where
  range := ⟨start, start + byteLength st.text⟩
  package :=
    let package := start + byteLength st.beforePackage
    ⟨package, package + byteLength packageWord⟩
  content := String.ofList st.content
  variant := st.variant.map String.ofList
  text := String.ofList st.text

/-- The statements of a text whose first piece begins at byte `offset`. -/
def Segments.matchesFrom (offset : Nat) : List (List Char × Statement) → List Match
  | [] => []
  | (before, st) :: statements =>
    let found := st.matchAt (offset + byteLength before)
    found :: matchesFrom found.range.stop statements

theorem Statement.range_matchAt (st : Statement) (a : List Char) :
    (st.matchAt (byteLength a)).range = ⟨byteLength a, byteLength (a ++ st.text)⟩ := by
  simp [matchAt]

theorem Statement.package_matchAt (st : Statement) (a : List Char) :
    (st.matchAt (byteLength a)).package =
      ⟨byteLength (a ++ st.beforePackage), byteLength (a ++ st.beforePackage ++ packageWord)⟩ := by
  simp [matchAt, Nat.add_assoc]

theorem Segments.matchesFrom_cons (a before : List Char) (st : Statement)
    (statements : List (List Char × Statement)) :
    matchesFrom (byteLength a) ((before, st) :: statements) =
      st.matchAt (byteLength (a ++ before)) ::
        matchesFrom (byteLength (a ++ before ++ st.text)) statements := by
  rw [matchesFrom, ← byteLength_append, Statement.range_matchAt]

theorem Segments.exists_matchAt_of_mem {offset : Nat} {statements : List (List Char × Statement)}
    {found : Match} (h : found ∈ matchesFrom offset statements) :
    ∃ st ∈ statements.map Prod.snd, ∃ start, found = st.matchAt start := by
  induction statements generalizing offset with
  | nil => cases h
  | cons p statements ih =>
    obtain ⟨before, st⟩ := p
    rw [matchesFrom, List.mem_cons] at h
    obtain rfl | h := h
    · exact ⟨st, List.mem_cons_self, _, rfl⟩
    · obtain ⟨st, hst, found⟩ := ih h
      exact ⟨st, List.mem_cons_of_mem _ hst, found⟩

theorem Segments.text_cons (before : List Char) (st : Statement)
    (statements : List (List Char × Statement)) (tail : List Char) :
    (mk ((before, st) :: statements) tail).text =
      before ++ st.beforePackage ++ Statement.packageWord ++
        (st.afterPackage ++ (mk statements tail).text) := by
  simp [text, Statement.text, Statement.textWith]

def scan (source : String) : List Match :=
  Segments.matchesFrom 0 (Segments.ofText source.toList).statements

/-- What a scan finds are statements that can be written down. -/
theorem exists_matchAt_of_mem_scan {source : String} {found : Match} (h : found ∈ scan source) :
    ∃ st : Statement, st.WellFormed ∧ ∃ start, found = st.matchAt start := by
  obtain ⟨st, hst, found⟩ := Segments.exists_matchAt_of_mem h
  exact ⟨st, Segments.wellFormed_of_mem_cut hst, found⟩

end IconImports
