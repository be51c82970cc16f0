import IconImports.Statement
import Mathlib.Data.List.Basic

/-!
# What the reader of statements accepts

Wherever a well-formed statement stands, it is read, whatever follows (`read?_text_append`); so one
text starts with at most one statement (`eq_of_text_append_eq`). With another word in the place of
the name of the package, it is not read (`read?_textWith_append`). No statement opens within another
one (`ne_opening_append_of_within`), nor within one with another word: between its first character
and its last there is only one opening brace, and after that brace a quote comes before any other.
-/

namespace IconImports

namespace Statement

variable {st st' : Statement} {s rest rest' : List Char}

/-! ### Each reader reads what was written -/

theorem after?_append (w s : List Char) : after? w (w ++ s) = some s := by
  induction w with
  | nil => rw [List.nil_append, after?]
  | cons c w ih => rw [List.cons_append, after?, if_pos rfl, ih]

theorem blanks?_append {gap : List Char} (h : gap ≠ [] ∧ ∀ c ∈ gap, isBlank c = true) {c : Char}
    (hc : isBlank c = false) (s : List Char) :
    blanks? (gap ++ c :: s) = some (gap, c :: s) := by
  simp only [blanks?, List.takeWhile_append_of_pos h.2, List.dropWhile_append_of_pos h.2,
    List.takeWhile_cons, List.dropWhile_cons, hc, Bool.false_eq_true, if_false, List.append_nil,
    if_neg h.1]

theorem isBlank_eq_false_of_isQuote {c : Char} (h : isQuote c = true) : isBlank c = false := by
  obtain rfl | rfl := isQuote_iff.1 h <;> decide

theorem isVariantChar_eq_false_of_isQuote {c : Char} (h : isQuote c = true) :
    isVariantChar c = false := by
  obtain rfl | rfl := isQuote_iff.1 h <;> decide

theorem variantPart_append {variant : Option (List Char)}
    (h : ∀ v ∈ variant, v ≠ [] ∧ ∀ c ∈ v, isVariantChar c = true) {c : Char}
    (hc : isQuote c = true) (s : List Char) :
    variantPart (variantText variant ++ c :: s) = (variant, c :: s) := by
  have stop := isVariantChar_eq_false_of_isQuote hc
  cases variant with
  | none =>
    obtain rfl | rfl := isQuote_iff.1 hc <;> rfl
  | some v =>
    obtain ⟨hne, hv⟩ := h v rfl
    simp only [variantText, List.cons_append, variantPart, List.takeWhile_append_of_pos hv,
      List.dropWhile_append_of_pos hv, List.takeWhile_cons, List.dropWhile_cons, stop,
      Bool.false_eq_true, if_false, List.append_nil, if_neg hne]

theorem read?_beforePackage_append (h : st.WellFormed) (s : List Char) :
    read? (st.beforePackage ++ s) = (after? packageWord s).bind fun s =>
      let (variant, s) := variantPart s
      (quote? s).map fun (closeQuote, s) =>
        ({ st with variant, closeQuote, semicolon := (semicolonPart s).1 }, (semicolonPart s).2) := by
  let s₂ := st.gapBeforeQuote ++ st.openQuote :: s
  let s₃ := st.content ++ '\x7d' :: (st.gapAfterBrace ++ (fromWord ++ s₂))
  have text : st.beforePackage ++ s = importWord ++ (st.gapBeforeBrace ++ '\x7b' :: s₃) := by
    simp [beforePackage, s₂, s₃]
  have brace : blanks? (st.gapBeforeBrace ++ '\x7b' :: s₃) = _ :=
    blanks?_append h.gapBeforeBrace (by decide) s₃
  have inside : ∀ c ∈ st.content, (!isBrace c) = true := by
    intro c hc
    rw [h.content c hc, Bool.not_false]
  have content : s₃.takeWhile (fun c => !isBrace c) = st.content := by
    rw [List.takeWhile_append_of_pos inside]
    simp [isBrace]
  have afterContent : s₃.dropWhile (fun c => !isBrace c) =
      '\x7d' :: (st.gapAfterBrace ++ (fromWord ++ s₂)) := by
    rw [List.dropWhile_append_of_pos inside]
    simp [isBrace]
  have word : blanks? (st.gapAfterBrace ++ (fromWord ++ s₂)) = some (st.gapAfterBrace, fromWord ++ s₂) :=
    blanks?_append (c := 'f') h.gapAfterBrace (by decide) _
  have quote : blanks? s₂ = some (st.gapBeforeQuote, st.openQuote :: s) :=
    blanks?_append h.gapBeforeQuote (isBlank_eq_false_of_isQuote h.openQuote) _
  have opening : after? ['\x7b'] ('\x7b' :: s₃) = some s₃ := after?_append ['\x7b'] s₃
  have closing := after?_append ['\x7d'] (st.gapAfterBrace ++ (fromWord ++ s₂))
  rw [List.singleton_append] at closing
  simp only [read?, text, after?_append, brace, opening, content, afterContent, closing, word, quote,
    quote?_cons h.openQuote, Option.bind_eq_bind, Option.bind_some, Option.pure_def,
    Option.map_eq_bind]
  rfl

theorem read?_text_append_eq (h : st.WellFormed) (rest : List Char) :
    read? (st.text ++ rest) =
      let s := (if st.semicolon then [';'] else []) ++ rest
      some ({ st with semicolon := (semicolonPart s).1 }, (semicolonPart s).2) := by
  have text : st.text ++ rest = st.beforePackage ++ (packageWord ++
      (variantText st.variant ++ st.closeQuote ::
        ((if st.semicolon then [';'] else []) ++ rest))) := by
    simp [text, textWith, afterPackage]
  rw [text, read?_beforePackage_append h, after?_append, Option.bind_some,
    variantPart_append h.variant h.closeQuote]
  simp only [quote?_cons h.closeQuote, Option.map_some]

theorem read?_text_append (h : st.WellFormed) (hs : st.semicolon = false) (rest : List Char) :
    read? (st.text ++ rest) =
      some ({ st with semicolon := (semicolonPart rest).1 }, (semicolonPart rest).2) := by
  simpa [hs] using read?_text_append_eq h rest

/-- A statement is read as it was written, unless it has no semicolon and one follows. -/
theorem read?_text_append_eq_some_iff (h : st.WellFormed) :
    read? (st.text ++ rest) = some (st, rest) ↔ st.semicolon = true ∨ rest.head? ≠ some ';' := by
  cases hs : st.semicolon with
  | true =>
    have read := read?_text_append_eq h rest
    rw [hs] at read
    simp [read, semicolonPart, ← hs]
  | false =>
    rw [read?_text_append h hs]
    fun_cases semicolonPart rest with
    | case1 s => simp
    | case2 s hne =>
      have head : rest.head? ≠ some ';' := by
        intro hc
        obtain ⟨t, rfl⟩ := List.head?_eq_some_iff.1 hc
        exact hne t rfl
      simp [head, ← hs]

/-- With another word in the place of the name of the package, a statement is not read. -/
theorem read?_textWith_append (h : st.WellFormed) {token : List Char}
    (hlen : token.length = packageWord.length) (hne : token ≠ packageWord) (rest : List Char) :
    read? (st.textWith token ++ rest) = none := by
  have other : after? packageWord (token ++ (st.afterPackage ++ rest)) = none := by
    rw [Option.eq_none_iff_forall_not_mem]
    intro s hs
    exact hne (List.append_inj (eq_append_of_after? hs) hlen).1
  rw [textWith, List.append_assoc, List.append_assoc, read?_beforePackage_append h, other]
  rfl

/-- One text starts with at most one statement, semicolons apart. -/
theorem eq_of_text_append_eq (h : st.WellFormed) (h' : st'.WellFormed) (hs : st.semicolon = false)
    (hs' : st'.semicolon = false) (e : st.text ++ rest = st'.text ++ rest') : st = st' := by
  have read := read?_text_append h hs rest
  rw [e, read?_text_append h' hs' rest'] at read
  injection read with read
  injection read with read
  cases st
  cases st'
  simp_all

/-! ### No statement starts within another one -/

def opening (st : Statement) : List Char := importWord ++ st.gapBeforeBrace ++ ['\x7b']

/-- What follows the opening, with `token` in the place of the name of the package. -/
def bodyWith (st : Statement) (token : List Char) : List Char :=
  st.content ++ ['\x7d'] ++ st.gapAfterBrace ++ fromWord ++ st.gapBeforeQuote ++ [st.openQuote] ++
    token ++ st.afterPackage

theorem textWith_eq (st : Statement) (token : List Char) :
    st.textWith token = st.opening ++ st.bodyWith token := by
  simp [textWith, beforePackage, opening, bodyWith]

theorem text_eq (st : Statement) : st.text = st.opening ++ st.bodyWith packageWord :=
  st.textWith_eq packageWord

theorem isQuote_eq_false_of_mem_opening (h : st.WellFormed) {c : Char} (hc : c ∈ st.opening) :
    isQuote c = false := by
  simp only [opening, List.mem_append, List.mem_singleton] at hc
  obtain (hc | hc) | rfl := hc
  · have unquoted : importWord.all (!isQuote ·) = true := by decide
    simpa using List.all_eq_true.1 unquoted c hc
  · cases hq : isQuote c with
    | false => rfl
    | true => simpa [isBlank_eq_false_of_isQuote hq] using h.gapBeforeBrace.2 c hc
  · rfl

theorem eq_nil_of_opening_eq (h : st.WellFormed) {u w : List Char}
    (e : st.opening = u ++ 'i' :: w) : u = [] := by
  cases u with
  | nil => rfl
  | cons c u =>
    have hi : 'i' ∈ ['m', 'p', 'o', 'r', 't'] ++ st.gapBeforeBrace ++ ['\x7b'] := by
      have tail := congrArg List.tail e
      rw [List.cons_append, List.tail_cons] at tail
      change ['m', 'p', 'o', 'r', 't'] ++ st.gapBeforeBrace ++ ['\x7b'] = _ at tail
      rw [tail]
      simp
    have blank : isBlank 'i' = false := by decide
    simp only [List.mem_append] at hi
    obtain (hi | hi) | hi := hi
    · exact absurd hi (by decide)
    · simpa [blank] using h.gapBeforeBrace.2 'i' hi
    · exact absurd hi (by decide)

variable {token : List Char}

theorem not_mem_bodyWith (h : st.WellFormed) (ht : '\x7b' ∉ token) :
    '\x7b' ∉ st.bodyWith token := by
  have gaps : ∀ {gap : List Char}, (∀ c ∈ gap, isBlank c = true) → '\x7b' ∉ gap :=
    fun hgap hc => absurd (hgap _ hc) (by decide)
  have quotes : ∀ {q : Char}, isQuote q = true → '\x7b' ≠ q := by
    rintro q hq rfl
    exact absurd hq (by decide)
  have content : '\x7b' ∉ st.content := by
    intro hc
    exact absurd (h.content _ hc) (by decide)
  have variant : '\x7b' ∉ variantText st.variant := by
    cases hv : st.variant with
    | none => exact List.not_mem_nil
    | some v =>
      rw [variantText, List.mem_cons, not_or]
      exact ⟨by decide, fun hc => absurd ((h.variant v hv).2 _ hc) (by decide)⟩
  have semicolon : '\x7b' ∉ if st.semicolon then [';'] else [] := by
    cases st.semicolon <;> decide
  simp only [bodyWith, afterPackage, List.mem_append, List.mem_singleton, not_or]
  exact ⟨⟨⟨⟨⟨⟨⟨content, by decide⟩, gaps h.gapAfterBrace.2⟩, by decide⟩, gaps h.gapBeforeQuote.2⟩,
    quotes h.openQuote⟩, ht⟩, ⟨variant, quotes h.closeQuote⟩, semicolon⟩

theorem exists_bodyWith_eq (st : Statement) (token : List Char) :
    ∃ x y, st.bodyWith token = x ++ st.closeQuote :: y ∧ ∀ c ∈ y, c = ';' := by
  refine ⟨st.content ++ ['\x7d'] ++ st.gapAfterBrace ++ fromWord ++ st.gapBeforeQuote ++
    [st.openQuote] ++ token ++ variantText st.variant,
    if st.semicolon then [';'] else [], by simp [bodyWith, afterPackage], fun c hc => ?_⟩
  cases hs : st.semicolon with
  | false => simp [hs] at hc
  | true => simpa [hs] using hc

/-- A text that continues some end of a body does not open a statement: it would have its opening
brace before a quote. -/
theorem append_ne_opening_append (h : st.WellFormed) (h' : st'.WellFormed) (ht : '\x7b' ∉ token)
    {c w z : List Char} (e : st.bodyWith token = c ++ w) (hw : w ≠ []) :
    w ++ rest ≠ st'.opening ++ z := by
  intro eq
  obtain ⟨x, y, hbody, hy⟩ := st.exists_bodyWith_eq token
  rw [e] at hbody
  have brace : '\x7b' ∉ w := by
    intro hc
    apply not_mem_bodyWith h ht
    rw [e]
    exact List.mem_append_right c hc
  -- The closing quote is in `w`, or else `w` lies behind it.
  have closed : st.closeQuote ∈ w ∨ ∀ c ∈ w, c = ';' := by
    obtain ⟨a, -, rfl⟩ | ⟨a, -, ha⟩ := List.append_eq_append_iff.1 hbody
    · exact .inl (by simp)
    · cases a with
      | nil =>
        obtain rfl : st.closeQuote :: y = w := ha
        exact .inl List.mem_cons_self
      | cons q a =>
        injection ha with _ ha
        exact .inr fun c hc => hy c (ha ▸ List.mem_append_right a hc)
  obtain ⟨a, hopening, -⟩ | ⟨a, rfl, -⟩ := List.append_eq_append_iff.1 eq
  · obtain hq | hsemi := closed
    · have quote := isQuote_eq_false_of_mem_opening h' (hopening ▸ List.mem_append_left a hq)
      rw [h.closeQuote] at quote
      cases quote
    · obtain ⟨d, w, rfl⟩ := List.exists_cons_of_ne_nil hw
      obtain rfl := hsemi d List.mem_cons_self
      exact absurd (congrArg List.head? hopening) (by simp [opening, importWord])
  · exact brace (by simp [opening])

theorem ne_opening_append_of_within (h : st.WellFormed) (h' : st'.WellFormed) (ht : '\x7b' ∉ token)
    {u v z : List Char} (e : st.textWith token ++ rest = u ++ v) (hu : u ≠ [])
    (hlt : u.length < (st.textWith token).length) : v ≠ st'.opening ++ z := by
  rintro rfl
  rw [textWith_eq, List.append_assoc] at e
  rw [textWith_eq, List.length_append] at hlt
  obtain ⟨a, rfl, ha⟩ | ⟨a, hopening, ha⟩ := List.append_eq_append_iff.1 e
  · rw [List.length_append, Nat.add_lt_add_iff_left] at hlt
    obtain ⟨w, rfl, -⟩ | ⟨w, hbody, hw⟩ := List.append_eq_append_iff.1 ha
    · rw [List.length_append] at hlt
      omega
    · have hne : w ≠ [] := by
        rintro rfl
        rw [hbody, List.append_nil] at hlt
        exact Nat.lt_irrefl _ hlt
      exact append_ne_opening_append h h' ht hbody hne hw.symm
  · cases a with
    | nil =>
      have hne : st.bodyWith token ≠ [] := by
        obtain ⟨x, y, hbody, -⟩ := st.exists_bodyWith_eq token
        simp [hbody]
      exact append_ne_opening_append h h' ht (c := []) rfl hne ha.symm
    | cons c a =>
      obtain rfl : 'i' = c := by simpa [opening, importWord] using congrArg List.head? ha
      exact hu (eq_nil_of_opening_eq h hopening)

/-- No statement is read within another one, whatever word stands in the place of the package. -/
theorem read?_eq_none_of_within (h : st.WellFormed) (ht : '\x7b' ∉ token) {u v : List Char}
    (e : st.textWith token ++ rest = u ++ v) (hu : u ≠ [])
    (hlt : u.length < (st.textWith token).length) : read? v = none := by
  rw [Option.eq_none_iff_forall_not_mem]
  rintro ⟨st', rest'⟩ hread
  obtain ⟨h', rfl⟩ := wellFormed_and_eq_of_read? hread
  rw [text_eq, List.append_assoc] at e
  exact ne_opening_append_of_within h h' ht e hu hlt rfl

theorem not_mem_packageWord : '\x7b' ∉ packageWord := by decide

end Statement

end IconImports
