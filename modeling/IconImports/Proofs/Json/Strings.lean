import IconImports.Proofs.Json.Reads

/-!
# How strings are read

The reader of strings accepts what spells characters, and gives these characters back
(`readString_nil_eq_ok_iff`). Each of its parts is read in one way only, so every lemma here says at
once what a part accepts and what is left behind it.
-/

namespace IconImports

open Json

variable {s rest : List Char}

theorem bind_eq_ok_iff {ε α β : Type} {x : Except ε α} {f : α → Except ε β} {b : β} :
    x >>= f = .ok b ↔ ∃ a, x = .ok a ∧ f a = .ok b := by
  cases x with
  | error e => exact ⟨nofun, nofun⟩
  | ok a =>
    constructor
    · intro h
      exact ⟨a, rfl, h⟩
    · rintro ⟨a, ⟨⟩, h⟩
      exact h

/-! ### Code units -/

theorem utf8Size_of_hexValue? {c : Char} {d : Nat} (h : hexValue? c = some d) :
    c.utf8Size = 1 := by
  have ascii : c.toNat ≤ 102 := by
    unfold hexValue? at h
    simp only [Char.le_def, UInt32.le_iff_toNat_le] at h
    split at h
    next hc => exact Nat.le_trans hc.2 (by decide)
    · split at h
      next hc => exact hc.2
      · split at h
        next hc => exact Nat.le_trans hc.2 (by decide)
        · cases h
  apply Char.utf8Size_eq_one_iff.2
  rw [UInt32.le_iff_toNat_le]
  exact Nat.le_trans ascii (by decide)

theorem exists_hexValue?_of_mapM {digits : List Nat} (h : s.mapM hexValue? = some digits) :
    ∀ c ∈ s, ∃ d, hexValue? c = some d := by
  induction s generalizing digits with
  | nil => exact List.forall_mem_nil _
  | cons c s ih =>
    rw [List.mapM_cons] at h
    obtain ⟨d, hd, h⟩ := Option.bind_eq_some_iff.1 h
    obtain ⟨others, hothers, -⟩ := Option.bind_eq_some_iff.1 h
    exact List.forall_mem_cons.2 ⟨⟨d, hd⟩, ih hothers⟩

theorem byteLength_of_mapM_hexValue? {digits : List Nat} (h : s.mapM hexValue? = some digits) :
    byteLength s = s.length := by
  have isDigit := exists_hexValue?_of_mapM h
  clear h
  induction s with
  | nil => rfl
  | cons c s ih =>
    rw [List.forall_mem_cons] at isDigit
    obtain ⟨⟨d, hd⟩, others⟩ := isDigit
    rw [byteLength_cons, utf8Size_of_hexValue? hd, ih others, List.length_cons, Nat.add_comm]

theorem readHexQuad_eq_ok_iff {n : Nat} :
    readHexQuad s = .ok (n, rest) ↔ ∃ quad, s = quad ++ rest ∧ codeUnit? quad = some n := by
  unfold readHexQuad codeUnit?
  constructor
  · intro h
    dsimp only at h
    split at h
    · cases h
    next long =>
      split at h
      · cases h
      next digits hdigits =>
        obtain ⟨rfl, rfl⟩ := Prod.mk.inj (Except.ok.inj h)
        -- Digits are one byte long, so what is long enough in bytes has four of them.
        rw [byteLength_of_mapM_hexValue? hdigits] at long
        have length : (s.take 4).length = 4 := by
          have := List.length_take_le 4 s
          omega
        exact ⟨s.take 4, (List.take_append_drop 4 s).symm, by rw [if_pos length, hdigits]; rfl⟩
  · rintro ⟨quad, rfl, h⟩
    split at h
    next length =>
      obtain ⟨digits, hdigits, rfl⟩ := Option.map_eq_some_iff.1 h
      have long : ¬ byteLength quad < 4 := by
        rw [byteLength_of_mapM_hexValue? hdigits, length]
        exact Nat.lt_irrefl 4
      simp only [List.take_left' length, List.drop_left' length, if_neg long, hdigits]
    · cases h

theorem readPairMark_eq_ok_iff {c : Char} : readPairMark c s = .ok rest ↔ s = c :: rest := by
  unfold readPairMark
  cases s with
  | nil => simp
  | cons d s =>
    by_cases h : c = d
    · subst h
      simp
    · simp [h, Ne.symm h]

/-! ### Escapes -/

theorem exists_spelling_of_readUnicodeEscape {d : Char}
    (h : readUnicodeEscape s = .ok (d, rest)) :
    ∃ w, s = w ++ rest ∧ Spelling ('\\' :: 'u' :: w) d := by
  obtain ⟨⟨unit, t⟩, hunit, first⟩ := bind_eq_ok_iff.1 h
  obtain ⟨quad, rfl, hquad⟩ := readHexQuad_eq_ok_iff.1 hunit
  dsimp only at first
  split at first
  · cases first
  next notLow =>
    split at first
    next single =>
      cases first
      exact ⟨quad, rfl, .unit hquad single⟩
    next notSingle =>
      -- The unit is the first half of a pair, so the mark and the second half were read too.
      obtain ⟨u, backslash, marked⟩ := bind_eq_ok_iff.1 first
      obtain ⟨v, letter, second⟩ := bind_eq_ok_iff.1 marked
      obtain ⟨⟨low, w⟩, hlow, last⟩ := bind_eq_ok_iff.1 second
      obtain rfl := readPairMark_eq_ok_iff.1 backslash
      obtain rfl := readPairMark_eq_ok_iff.1 letter
      obtain ⟨quad', rfl, hquad'⟩ := readHexQuad_eq_ok_iff.1 hlow
      split at last
      · cases last
      next isLow =>
        obtain ⟨rfl, rfl⟩ := Prod.mk.inj (Except.ok.inj last)
        dsimp only at isLow
        refine ⟨quad ++ '\\' :: 'u' :: quad', by simp, .pair hquad hquad' ?_ ?_⟩
        · omega
        · omega

theorem Json.Spelling.readUnicodeEscape_append {w : List Char} {d : Char}
    (h : Spelling ('\\' :: 'u' :: w) d) (rest : List Char) :
    readUnicodeEscape (w ++ rest) = .ok (d, rest) := by
  cases h with
  | letter h => cases h
  | @unit _ n hquad single =>
    have notLow : ¬ (0xDC00 ≤ n ∧ n ≤ 0xDFFF) := by omega
    apply bind_eq_ok_iff.2
    refine ⟨_, readHexQuad_eq_ok_iff.2 ⟨w, rfl, hquad⟩, ?_⟩
    dsimp only
    rw [if_neg notLow, if_pos single]
    rfl
  | @pair quad quad' high low hquad hquad' first second =>
    have notLow : ¬ (0xDC00 ≤ high ∧ high ≤ 0xDFFF) := by omega
    have notSingle : ¬ (high < 0xD800 ∨ 0xDFFF < high) := by omega
    have isLow : ¬ (low < 0xDC00 ∨ 0xDFFF < low) := by omega
    have text : quad ++ '\\' :: 'u' :: quad' ++ rest =
        quad ++ '\\' :: 'u' :: (quad' ++ rest) := by simp
    apply bind_eq_ok_iff.2
    refine ⟨_, readHexQuad_eq_ok_iff.2 ⟨quad, text, hquad⟩, ?_⟩
    dsimp only
    rw [if_neg notLow, if_neg notSingle]
    apply bind_eq_ok_iff.2
    refine ⟨_, readPairMark_eq_ok_iff.2 rfl, bind_eq_ok_iff.2 ?_⟩
    refine ⟨_, readPairMark_eq_ok_iff.2 rfl, bind_eq_ok_iff.2 ?_⟩
    refine ⟨_, readHexQuad_eq_ok_iff.2 ⟨quad', rfl, hquad'⟩, ?_⟩
    dsimp only
    rw [if_neg isLow]
    rfl

theorem readEscape_eq_ok_iff {d : Char} :
    readEscape s = .ok (d, rest) ↔ ∃ w, s = w ++ rest ∧ Spelling ('\\' :: w) d := by
  constructor
  · intro h
    cases s with
    | nil => cases h
    | cons c s =>
      simp only [readEscape] at h
      by_cases hc : c = 'u'
      · rw [if_pos hc] at h
        obtain ⟨w, rfl, hw⟩ := exists_spelling_of_readUnicodeEscape h
        exact ⟨c :: w, rfl, hc ▸ hw⟩
      · rw [if_neg hc] at h
        split at h
        · cases h
        next d hd =>
          cases h
          exact ⟨[c], rfl, .letter hd⟩
  · rintro ⟨w, rfl, h⟩
    -- A backslash does not spell itself, so a letter or the mark of a code unit follows.
    by_cases hu : ∃ v, w = 'u' :: v
    · obtain ⟨v, rfl⟩ := hu
      exact h.readUnicodeEscape_append rest
    · cases h with
      | itself _ backslash => exact absurd rfl backslash
      | @letter c _ h =>
        have notUnit : c ≠ 'u' := fun hc => hu ⟨[], by rw [hc]⟩
        show (if c = 'u' then _ else _) = _
        rw [if_neg notUnit, h]
        rfl
      | unit | pair => exact absurd ⟨_, rfl⟩ hu

/-! ### Strings -/

/-- What spells a character is read as it. -/
theorem Json.Spelling.readString_append {read w : List Char} {c : Char} (h : Spelling w c) :
    readString read (w ++ s) = readString (c :: read) s := by
  by_cases escaped : ∃ v, w = '\\' :: v
  · obtain ⟨v, rfl⟩ := escaped
    have notQuote : ¬ '\\' = '"' := by decide
    have escape : readEscape (v ++ s) = .ok (c, s) := readEscape_eq_ok_iff.2 ⟨v, rfl, h⟩
    rw [List.cons_append, readString, if_neg notQuote, if_pos rfl]
    split
    next hstop => cases escape.symm.trans hstop
    next hread =>
      cases escape.symm.trans hread
      rfl
  · cases h with
    | itself quote backslash control =>
      rw [List.singleton_append, readString, if_neg quote, if_neg backslash,
        if_neg (Nat.not_lt.2 control)]
    | letter | unit | pair => exact absurd ⟨_, rfl⟩ escaped

theorem readString_eq_ok_iff {read : List Char} {text : String} :
    readString read s = .ok (text, rest) ↔
      ∃ body chars, s = body ++ '"' :: rest ∧ Spells body chars ∧
        text = String.ofList (read.reverse ++ chars) := by
  constructor
  · intro h
    fun_induction readString read s with
    | case1 => cases h
    | case2 read s =>
      cases h
      exact ⟨[], [], rfl, .nil, by rw [List.append_nil]⟩
    | case3 => cases h
    | case4 read s d t hescape _ ih =>
      obtain ⟨w, rfl, first⟩ := readEscape_eq_ok_iff.1 hescape
      obtain ⟨body, chars, rfl, others, rfl⟩ := ih h
      refine ⟨'\\' :: w ++ body, d :: chars, by simp, .cons first others, by simp⟩
    | case5 => cases h
    | case6 read c s notQuote notBackslash notControl ih =>
      obtain ⟨body, chars, rfl, others, rfl⟩ := ih h
      have first : Spelling [c] c := .itself notQuote notBackslash (Nat.not_lt.1 notControl)
      refine ⟨[c] ++ body, c :: chars, rfl, .cons first others, by simp⟩
  · rintro ⟨body, chars, rfl, h, rfl⟩
    induction h generalizing read with
    | nil =>
      rw [List.nil_append, readString, if_pos rfl, List.append_nil]
    | @cons w body chars c first others ih =>
      rw [List.append_assoc, first.readString_append, ih, List.reverse_cons, List.append_assoc,
        List.singleton_append]

theorem readString_nil_eq_ok_iff {text : String} :
    readString [] s = .ok (text, rest) ↔
      ∃ body, s = body ++ '"' :: rest ∧ Spells body text.toList := by
  rw [readString_eq_ok_iff]
  constructor
  · rintro ⟨body, chars, hs, spells, rfl⟩
    rw [String.toList_ofList]
    exact ⟨body, hs, spells⟩
  · rintro ⟨body, hs, spells⟩
    exact ⟨body, text.toList, hs, spells, String.ofList_toList.symm⟩

end IconImports
