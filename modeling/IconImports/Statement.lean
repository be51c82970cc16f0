import IconImports.Text.Blank

/-!
# Aggregate import statements

A `Statement` is one import of the icon package, such as
`import { ic_home as Home } from "maic/outlined";`, kept with all of its spacing. `textWith` prints
it with any text in the place of the package name, `text` prints it as it was written, and `read?`
reads one from the start of a text. `WellFormed` says which statements can be written down.

The main statement: what is read is well formed, and printing it gives back exactly the text that
was consumed (`wellFormed_and_eq_of_read?`).
-/

namespace IconImports

/-- The package whose imports are redirected. -/
def packageName : String := "maic"

/-- One import of the package, cut into the parts that can vary. -/
structure Statement where
  gapBeforeBrace : List Char
  content : List Char
  gapAfterBrace : List Char
  gapBeforeQuote : List Char
  openQuote : Char
  /-- The part of the package that is named after a slash. -/
  variant : Option (List Char)
  closeQuote : Char
  semicolon : Bool
  deriving DecidableEq

/-- A brace ends the contents of an import list, whichever way it points. -/
def isBrace (c : Char) : Bool := c == '\x7b' || c == '\x7d'

/-- Either of the two quotes around a module name; the closing one need not equal the opening. -/
def isQuote (c : Char) : Bool := c == '"' || c == '\''

theorem isQuote_iff {c : Char} : isQuote c = true ↔ c = '"' ∨ c = '\'' := by
  simp [isQuote]

/-- The characters of which a variant's name is made. -/
def isVariantChar (c : Char) : Bool := c.isAlphanum || c == '_'

namespace Statement

/-! ### Printing -/

/-- The words of a statement that are always the same. -/
def importWord : List Char := ['i', 'm', 'p', 'o', 'r', 't']

@[inherit_doc importWord]
def fromWord : List Char := ['f', 'r', 'o', 'm']

def packageWord : List Char := ['m', 'a', 'i', 'c']

theorem packageWord_eq : packageWord = packageName.toList := by decide

def beforePackage (st : Statement) : List Char :=
  importWord ++ st.gapBeforeBrace ++ ['\x7b'] ++ st.content ++ ['\x7d'] ++ st.gapAfterBrace ++
    fromWord ++ st.gapBeforeQuote ++ [st.openQuote]

/-- A variant is written after a slash; where there is none, nothing is written. -/
def variantText : Option (List Char) → List Char
  | none => []
  | some v => '/' :: v

def afterPackage (st : Statement) : List Char :=
  variantText st.variant ++ [st.closeQuote] ++ if st.semicolon then [';'] else []

/-- The statement with `token` in the place of the name of the package. -/
def textWith (st : Statement) (token : List Char) : List Char :=
  st.beforePackage ++ token ++ st.afterPackage

/-- The statement as it was written. -/
def text (st : Statement) : List Char := st.textWith packageWord

/-- The statements that can be written: each gap is a run of at least one blank, the list holds no
brace, the quotes are quotes, and a variant is a word. -/
structure WellFormed (st : Statement) : Prop where
  gapBeforeBrace : st.gapBeforeBrace ≠ [] ∧ ∀ c ∈ st.gapBeforeBrace, isBlank c = true
  content : ∀ c ∈ st.content, isBrace c = false
  gapAfterBrace : st.gapAfterBrace ≠ [] ∧ ∀ c ∈ st.gapAfterBrace, isBlank c = true
  gapBeforeQuote : st.gapBeforeQuote ≠ [] ∧ ∀ c ∈ st.gapBeforeQuote, isBlank c = true
  openQuote : isQuote st.openQuote = true
  variant : ∀ v ∈ st.variant, v ≠ [] ∧ ∀ c ∈ v, isVariantChar c = true
  closeQuote : isQuote st.closeQuote = true

/-! ### Reading -/

def after? : List Char → List Char → Option (List Char)
  | [], s => some s
  | _ :: _, [] => none
  | c :: w, d :: s => if c = d then after? w s else none

def quote? : List Char → Option (Char × List Char)
  | [] => none
  | c :: s => if isQuote c then some (c, s) else none

/-- The variant at the start of a text, if a slash and a name stand there, and what follows it. -/
def variantPart : List Char → Option (List Char) × List Char
  | '/' :: s =>
    let v := s.takeWhile isVariantChar
    if v = [] then (none, '/' :: s) else (some v, s.dropWhile isVariantChar)
  | s => (none, s)

/-- Whether a semicolon starts the text, and what follows it. -/
def semicolonPart : List Char → Bool × List Char
  | ';' :: s => (true, s)
  | s => (false, s)

/-- The statement at the very start of a text, and what follows it. -/
def read? (s : List Char) : Option (Statement × List Char) := do
  let s ← after? importWord s
  let (gapBeforeBrace, s) ← blanks? s
  let s ← after? ['\x7b'] s
  let content := s.takeWhile fun c => !isBrace c
  let s ← after? ['\x7d'] (s.dropWhile fun c => !isBrace c)
  let (gapAfterBrace, s) ← blanks? s
  let s ← after? fromWord s
  let (gapBeforeQuote, s) ← blanks? s
  let (openQuote, s) ← quote? s
  let s ← after? packageWord s
  let (variant, s) := variantPart s
  let (closeQuote, s) ← quote? s
  let (semicolon, s) := semicolonPart s
  return (⟨gapBeforeBrace, content, gapAfterBrace, gapBeforeQuote, openQuote, variant, closeQuote,
    semicolon⟩, s)

theorem quote?_cons {c : Char} (h : isQuote c = true) (s : List Char) :
    quote? (c :: s) = some (c, s) := by
  rw [quote?, if_pos h]

/-! ### Each reader consumes what it reports -/

theorem eq_append_of_after? {w s r : List Char} (h : after? w s = some r) : s = w ++ r := by
  fun_induction after? w s with
  | case1 s => simpa using h
  | case2 => simp at h
  | case3 w d s ih => simp [← ih h]
  | case4 => simp at h

theorem eq_cons_of_quote? {s r : List Char} {q : Char} (h : quote? s = some (q, r)) :
    s = q :: r ∧ isQuote q = true := by
  unfold quote? at h
  split at h
  · simp at h
  · split at h
    · simp only [Option.some.injEq, Prod.mk.injEq] at h
      obtain ⟨rfl, rfl⟩ := h
      exact ⟨rfl, by assumption⟩
    · simp at h

theorem variantText_append_variantPart (s : List Char) :
    variantText (variantPart s).1 ++ (variantPart s).2 = s := by
  fun_cases variantPart s with
  | case1 s v hv => rfl
  | case2 s v hv => simp [variantText, v, List.takeWhile_append_dropWhile]
  | case3 => rfl

theorem word_of_mem_variantPart {s v : List Char} (h : v ∈ (variantPart s).1) :
    v ≠ [] ∧ ∀ c ∈ v, isVariantChar c = true := by
  revert h
  fun_cases variantPart s with
  | case1 => simp
  | case2 s w hw =>
    intro h
    obtain rfl : w = v := by simpa using h
    exact ⟨hw, fun c hc => List.all_eq_true.1 List.all_takeWhile c hc⟩
  | case3 => simp

theorem semicolonPart_append (s : List Char) :
    (if (semicolonPart s).1 then [';'] else []) ++ (semicolonPart s).2 = s := by
  fun_cases semicolonPart s <;> simp

/-- What is read is well formed, and printing it gives back the text that was consumed. -/
theorem wellFormed_and_eq_of_read? {s rest : List Char} {st : Statement}
    (h : read? s = some (st, rest)) : st.WellFormed ∧ s = st.text ++ rest := by
  simp only [read?, Option.bind_eq_bind, Option.bind_eq_some_iff, Option.pure_def,
    Option.some.injEq, Prod.mk.injEq, Prod.exists] at h
  obtain ⟨s₁, h₁, gap₁, s₂, h₂, s₃, h₃, s₄, h₄, gap₂, s₅, h₅, s₆, h₆, gap₃, s₇, h₇, q, s₈, h₈,
    s₉, h₉, q', s₁₀, h₁₀, rfl, rfl⟩ := h
  obtain ⟨e₂, n₂⟩ := eq_append_of_blanks? h₂
  obtain ⟨e₅, n₅⟩ := eq_append_of_blanks? h₅
  obtain ⟨e₇, n₇⟩ := eq_append_of_blanks? h₇
  obtain ⟨e₈, n₈⟩ := eq_cons_of_quote? h₈
  obtain ⟨e₁₀, n₁₀⟩ := eq_cons_of_quote? h₁₀
  have hc : ∀ c ∈ s₃.takeWhile fun c => !isBrace c, isBrace c = false := by
    intro c hc
    simpa using List.all_eq_true.1 List.all_takeWhile c hc
  refine ⟨⟨n₂, hc, n₅, n₇, n₈, fun v => word_of_mem_variantPart, n₁₀⟩, ?_⟩
  have e₃ : s₃ = (s₃.takeWhile fun c => !isBrace c) ++ ['\x7d'] ++ s₄ := by
    rw [List.append_assoc, ← eq_append_of_after? h₄, List.takeWhile_append_dropWhile]
  have e₉ := variantText_append_variantPart s₉
  have es := semicolonPart_append s₁₀
  rw [e₁₀, ← es] at e₉
  rw [eq_append_of_after? h₁, e₂, eq_append_of_after? h₃]
  conv => lhs; rw [e₃, e₅, eq_append_of_after? h₆, e₇, e₈, eq_append_of_after? h₉, ← e₉]
  simp [text, textWith, beforePackage, afterPackage]

theorem length_lt_of_read? {s rest : List Char} {st : Statement}
    (h : read? s = some (st, rest)) : rest.length < s.length := by
  rw [(wellFormed_and_eq_of_read? h).2]
  simp [text, textWith, beforePackage, importWord]
  omega

end Statement
end IconImports
