import IconImports.Proofs.Scan.Pattern
import IconImports.Proofs.Scan.Read
import IconImports.Segments

/-!
# The scan as a search for a pattern

In `importPattern`, the pattern of aggregate import statements, every greedy choice is forced: what
may follow a repetition never starts with one more of the repeated characters. So its preferred
reading is the statement that `Statement.read?` reads (`first?_importPattern`), and `scan` is the
search for it (`scan_eq_search`).
-/

namespace IconImports

/-- The pattern of a variant, with its slash. -/
def Pattern.variant (name : String) : Pattern :=
  .optional (.seq (.one (· == '/')) (.group name (.plus isVariantChar)))

/-- The pattern of aggregate import statements. -/
def importPattern : Pattern :=
  .seq (.word Statement.importWord) <|
  .seq (.plus isBlank) <|
  .seq (.word ['\x7b']) <|
  .seq (.group "content" (.many fun c => !isBrace c)) <|
  .seq (.word ['\x7d']) <|
  .seq (.plus isBlank) <|
  .seq (.word Statement.fromWord) <|
  .seq (.plus isBlank) <|
  .seq (.one isQuote) <|
  .seq (.group "package" (.word Statement.packageWord)) <|
  .seq (.variant "variant") <|
  .seq (.one isQuote) <|
  .optional (.one (· == ';'))

namespace Pattern

variable {a b : Pattern} {p : Char → Bool} {s : List Char}

theorem avoids_quote (h : p '"' = false) (h' : p '\'' = false) (b : Pattern) :
    (seq (one isQuote) b).Avoids p := by
  intro c s hc
  have hq : isQuote c = false := by
    rw [isQuote, Bool.or_eq_false_iff, beq_eq_false_iff_ne, beq_eq_false_iff_ne]
    constructor <;> rintro rfl <;> simp_all
  simp [readings, hq]

/-! ### First readings -/

section First

variable {β : Type} (f : Reading → β)

theorem map_first?_seq {o : Option Reading} (h : a.readings s = o.toList) :
    ((seq a b).first? s).map f = o.bind fun r => (b.first? r.rest).map fun r' => f (r ++ r') := by
  cases o <;> simp [first?, readings, h, Function.comp_def]

theorem readings_word (w s : List Char) :
    (word w).readings s = ((Statement.after? w s).map fun rest => ⟨w, [], rest⟩).toList := by
  fun_induction Statement.after? w s with
  | case1 => rfl
  | case2 => rfl
  | case3 w d s ih => simp [word, readings, ih, Option.toList_map, Reading.append_eq]
  | case4 c w d s h => simp [word, readings, Ne.symm h]

theorem map_first?_seq_word (w : List Char) :
    ((seq (word w) b).first? s).map f =
      (Statement.after? w s).bind fun rest =>
        (b.first? rest).map fun r => f (⟨w, [], rest⟩ ++ r) := by
  rw [map_first?_seq f (readings_word w s), Option.bind_map]
  rfl

theorem map_first?_seq_group_word (name : String) (w : List Char) :
    ((seq (group name (word w)) b).first? s).map f =
      (Statement.after? w s).bind fun rest =>
        (b.first? rest).map fun r => f (⟨w, [⟨name, 0, w⟩], rest⟩ ++ r) := by
  have h : (group name (word w)).readings s =
      ((Statement.after? w s).map fun rest => ⟨w, [⟨name, 0, w⟩], rest⟩).toList := by
    rw [readings, readings_word, ← Option.toList_map, Option.map_map]
    rfl
  rw [map_first?_seq f h, Option.bind_map]
  rfl

theorem map_first?_seq_quote :
    ((seq (one isQuote) b).first? s).map f =
      (Statement.quote? s).bind fun x =>
        (b.first? x.2).map fun r => f (⟨[x.1], [], x.2⟩ ++ r) := by
  have h : (one isQuote).readings s =
      ((Statement.quote? s).map fun x => ⟨[x.1], [], x.2⟩).toList := by
    cases s with
    | nil => rfl
    | cons c s => rw [readings, Statement.quote?]; split <;> rfl
  rw [map_first?_seq f h, Option.bind_map]
  rfl

theorem map_first?_seq_blanks (h : b.Avoids isBlank) :
    ((seq (plus isBlank) b).first? s).map f =
      (blanks? s).bind fun x => (b.first? x.2).map fun r => f (⟨x.1, [], x.2⟩ ++ r) := by
  rw [first?, readings, flatMap_plus fun x c s hc => by simp [h c s hc]]
  simp only [blanks?]
  split
  · rfl
  · simp [first?, Function.comp_def]

theorem map_first?_seq_group_many (name : String) (h : b.Avoids p) :
    ((seq (group name (many p)) b).first? s).map f =
      (b.first? (s.dropWhile p)).map fun r =>
        f (⟨s.takeWhile p, [⟨name, 0, s.takeWhile p⟩], s.dropWhile p⟩ ++ r) := by
  rw [first?, readings, readings, List.flatMap_map, readings,
    flatMap_runs fun x c s hc => by simp [h c s hc]]
  simp [first?, Function.comp_def]

/-- What is kept of a variant that follows `start` other bytes. -/
def variantGroups (name : String) (start : Nat) : Option (List Char) → List Group
  | none => []
  | some v => [⟨name, start + 1, v⟩]

theorem map_first?_seq_variant (name : String) (hslash : b.Avoids (· == '/'))
    (h : b.Avoids isVariantChar) :
    ((seq (variant name) b).first? s).map f =
      let x := Statement.variantPart s
      (b.first? x.2).map fun r =>
        f (⟨Statement.variantText x.1, variantGroups name 0 x.1, x.2⟩ ++ r) := by
  let named := seq (one (· == '/')) (group name (plus isVariantChar))
  have options : (seq (variant name) b).readings s = (seq named b).readings s ++ b.readings s := by
    simp [variant, named, readings, Reading.nil_append]
  have afterSlash : ∀ t, (seq named b).readings ('/' :: t) =
      if t.takeWhile isVariantChar = [] then []
      else (b.readings (t.dropWhile isVariantChar)).map
        (⟨'/' :: t.takeWhile isVariantChar, [⟨name, 1, t.takeWhile isVariantChar⟩],
          t.dropWhile isVariantChar⟩ ++ ·) := by
    intro t
    simp only [named, readings, beq_self_eq_true, if_true, List.flatMap_singleton, List.flatMap_map]
    rw [flatMap_plus fun x c s hc => by simp [h c s hc]]
    rfl
  rw [first?, options]
  fun_cases Statement.variantPart s with
  | case1 t v hv =>
    rw [afterSlash, if_pos hv]
    simp [first?, Statement.variantText, variantGroups, Reading.nil_append]
  | case2 t v hv =>
    rw [afterSlash, if_neg hv, hslash '/' t rfl, List.append_nil, List.head?_map, Option.map_map]
    rfl
  | case3 s hs =>
    have other : (seq named b).readings s = [] := by
      cases s with
      | nil => rfl
      | cons c s =>
        have hc : (c == '/') = false := by
          rw [beq_eq_false_iff_ne]
          rintro rfl
          exact hs s rfl
        simp [named, readings, hc]
    rw [other]
    simp [first?, Statement.variantText, variantGroups, Reading.nil_append]

end First

theorem first?_semicolon (s : List Char) :
    (optional (one (· == ';'))).first? s =
      let x := Statement.semicolonPart s
      some ⟨if x.1 then [';'] else [], [], x.2⟩ := by
  fun_cases Statement.semicolonPart s with
  | case1 s => rfl
  | case2 s h =>
    cases s with
    | nil => rfl
    | cons c s =>
      have hc : (c == ';') = false := by
        rw [beq_eq_false_iff_ne]
        rintro rfl
        exact h s rfl
      simp [first?, readings, hc]

end Pattern

/-! ### The pattern of statements -/

def Statement.reading (st : Statement) (rest : List Char) : Reading where
  text := st.text
  groups := ⟨"content", byteLength st.opening, st.content⟩ ::
    ⟨"package", byteLength st.beforePackage, packageWord⟩ ::
    Pattern.variantGroups "variant" (byteLength (st.beforePackage ++ packageWord)) st.variant
  rest := rest

theorem Pattern.map_variantGroups (name : String) (m n : Nat) (variant : Option (List Char)) :
    (variantGroups name n variant).map (fun g => { g with start := m + g.start }) =
      variantGroups name (m + n) variant := by
  cases variant <;> simp [variantGroups, Nat.add_assoc]

/-- The readings of its parts make up the reading of a statement. -/
theorem Statement.reading_mk (gap content gap' gap'' : List Char) (q q' : Char)
    (variant : Option (List Char)) (semicolon : Bool)
    (s₁ s₂ s₃ s₄ s₅ s₆ s₇ s₈ s₉ s₁₀ s₁₁ s₁₂ rest : List Char) :
    (⟨importWord, [], s₁⟩ ++ (⟨gap, [], s₂⟩ ++ (⟨['\x7b'], [], s₃⟩ ++
      (⟨content, [⟨"content", 0, content⟩], s₄⟩ ++ (⟨['\x7d'], [], s₅⟩ ++ (⟨gap', [], s₆⟩ ++
      (⟨fromWord, [], s₇⟩ ++ (⟨gap'', [], s₈⟩ ++ (⟨[q], [], s₉⟩ ++
      (⟨packageWord, [⟨"package", 0, packageWord⟩], s₁₀⟩ ++
      (⟨variantText variant, Pattern.variantGroups "variant" 0 variant, s₁₁⟩ ++
      (⟨[q'], [], s₁₂⟩ ++ ⟨if semicolon then [';'] else [], [], rest⟩))))))))))) : Reading) =
      reading ⟨gap, content, gap', gap'', q, variant, q', semicolon⟩ rest := by
  simp only [Reading.append_eq, reading, text, textWith, beforePackage, afterPackage, opening,
    List.map_cons, List.map_nil, List.append_nil, List.nil_append, List.cons_append,
    Pattern.map_variantGroups, byteLength_append, byteLength_cons, byteLength_nil,
    List.append_assoc, Nat.add_zero]

theorem bind_eq_map_bind {α β γ : Type} {o : Option α} {f : α → Option γ} {g : α → Option β}
    {k : β → γ} (h : ∀ a, f a = (g a).map k) : o.bind f = (o >>= g).map k := by
  cases o with
  | none => rfl
  | some a => exact h a

theorem first?_importPattern (s : List Char) :
    importPattern.first? s = (Statement.read? s).map fun x => x.1.reading x.2 := by
  have brace := fun b => Pattern.avoids_word (p := isBlank) (d := '\x7b') (by decide) [] b
  have closing := fun b =>
    Pattern.avoids_word (p := fun c => !isBrace c) (d := '\x7d') (by decide) [] b
  have word : ∀ b, (Pattern.seq (.word Statement.fromWord) b).Avoids isBlank :=
    Pattern.avoids_word (by decide) ['r', 'o', 'm']
  have quote := fun b => Pattern.avoids_quote (p := isBlank) (by decide) (by decide) b
  have slash := fun b => Pattern.avoids_quote (p := (· == '/')) (by decide) (by decide) b
  have name := fun b => Pattern.avoids_quote (p := isVariantChar) (by decide) (by decide) b
  rw [← Option.map_id_apply (x := importPattern.first? s), importPattern,
    Pattern.map_first?_seq_word]
  refine bind_eq_map_bind fun s₁ => ?_
  rw [Pattern.map_first?_seq_blanks _ (brace _)]
  refine bind_eq_map_bind fun ⟨gap, s₂⟩ => ?_
  rw [Pattern.map_first?_seq_word]
  refine bind_eq_map_bind fun s₃ => ?_
  rw [Pattern.map_first?_seq_group_many _ _ (closing _), Pattern.map_first?_seq_word]
  refine bind_eq_map_bind fun s₅ => ?_
  rw [Pattern.map_first?_seq_blanks _ (word _)]
  refine bind_eq_map_bind fun ⟨gap', s₆⟩ => ?_
  rw [Pattern.map_first?_seq_word]
  refine bind_eq_map_bind fun s₇ => ?_
  rw [Pattern.map_first?_seq_blanks _ (quote _)]
  refine bind_eq_map_bind fun ⟨gap'', s₈⟩ => ?_
  rw [Pattern.map_first?_seq_quote]
  refine bind_eq_map_bind fun ⟨q, s₉⟩ => ?_
  rw [Pattern.map_first?_seq_group_word]
  refine bind_eq_map_bind fun s₁₀ => ?_
  rw [Pattern.map_first?_seq_variant _ _ (slash _) (name _), Pattern.map_first?_seq_quote]
  refine bind_eq_map_bind fun ⟨q', s₁₂⟩ => ?_
  rw [Pattern.first?_semicolon]
  exact congrArg some (Statement.reading_mk ..)

/-! ### The scan as a search -/

/-- A reading of the pattern of statements as it is found at a byte of a text. There is none if no
name of the package was kept. -/
def Match.ofReading? (start : Nat) (r : Reading) : Option Match := do
  let package ← r.group? "package"
  return {
    range := ⟨start, start + byteLength r.text⟩
    package := ⟨start + package.start, start + package.start + byteLength package.text⟩
    content := ((r.group? "content").map fun g => String.ofList g.text).getD ""
    variant := (r.group? "variant").map fun g => String.ofList g.text
    text := String.ofList r.text }

theorem Match.ofReading?_reading (start : Nat) (st : Statement) (rest : List Char) :
    ofReading? start (st.reading rest) = some (st.matchAt start) := by
  cases hv : st.variant <;>
    simp [ofReading?, Reading.group?, Statement.reading, Statement.matchAt, Pattern.variantGroups,
      hv]

/-- At every place, the search for the pattern does what the cutting of a text does. -/
theorem filterMap_search_importPattern {a before s : List Char} :
    (importPattern.search (byteLength (a ++ before.reverse)) s).filterMap
        (fun x => Match.ofReading? x.1 x.2) =
      Segments.matchesFrom (byteLength a) (Segments.cut before s).statements := by
  fun_induction Segments.cut before s generalizing a
  case case1 before s st rest h segments ih =>
    have first : importPattern.first? s = some (st.reading rest) := by
      rw [first?_importPattern, h]
      rfl
    have hit (start : Nat) : Match.ofReading? start (st.reading rest) = some (st.matchAt start) :=
      Match.ofReading?_reading start st rest
    rw [Pattern.search_of_first?_eq_some first (Statement.length_lt_of_read? h),
      List.filterMap_cons, hit, Segments.matchesFrom_cons, ← ih]
    simp [Statement.reading, Nat.add_assoc]
  case case2 before h =>
    have first : importPattern.first? [] = none := by
      rw [first?_importPattern, h]
      rfl
    rw [Pattern.search_nil_of_first?_eq_none first]
    rfl
  case case3 before c s h ih =>
    have first : importPattern.first? (c :: s) = none := by
      rw [first?_importPattern, h]
      rfl
    rw [Pattern.search_cons_of_first?_eq_none first, ← ih]
    simp [Nat.add_assoc]

/-- The scan is the search for the pattern. -/
theorem scan_eq_search (source : String) :
    scan source =
      (importPattern.search 0 source.toList).filterMap fun x => Match.ofReading? x.1 x.2 :=
  (filterMap_search_importPattern (a := [])).symm

end IconImports
