import IconImports.Plugin
import IconImports.Proofs.List.Mapped
import Mathlib.Data.List.TakeWhile

/-!
# How import lists are read

A list is read item by item, and the first item without a name ends the reading: so what a list asks
for is put together at its commas (`importNames_append`). Between two commas stands one item, which
asks for the longest name at its start once the blanks around it are gone
(`exists_trims_and_importNames_eq`). So names that are joined to a list are read back from it
(`importNames_intercalate`).

The main statement: `importNames_readsLists`.
-/

namespace IconImports

/-- `padded` is `s` with blanks around it, if any. -/
def Pads (s padded : String) : Prop :=
  ∃ before after, padded = before ++ s ++ after ∧ (∀ c ∈ before.toList, isBlank c = true) ∧
    ∀ c ∈ after.toList, isBlank c = true

/-- `t` is `s` without the blanks at its ends. -/
def Trims (s t : String) : Prop :=
  Pads t s ∧ ∀ c, t.toList.head? = some c ∨ t.toList.getLast? = some c → isBlank c = false

/-! ### Trimming -/

section Trimming

variable {a b s t : List Char}

theorem head?_dropWhile_isBlank {c : Char} (h : (s.dropWhile isBlank).head? = some c) :
    isBlank c = false := by
  have first := List.head?_dropWhile_not isBlank s
  rw [h] at first
  exact first

theorem dropWhile_isBlank_append (ha : ∀ c ∈ a, isBlank c = true)
    (hs : ∀ c, s.head? = some c → isBlank c = false) : (a ++ s).dropWhile isBlank = s := by
  rw [List.dropWhile_append_of_pos ha]
  cases s with
  | nil => rfl
  | cons c s => rw [List.dropWhile_cons_of_neg (by rw [hs c rfl]; exact Bool.false_ne_true)]

theorem trimBlanks_append (ha : ∀ c ∈ a, isBlank c = true) (hb : ∀ c ∈ b, isBlank c = true)
    (ht : ∀ c, t.head? = some c ∨ t.getLast? = some c → isBlank c = false) :
    trimBlanks (a ++ t ++ b) = t := by
  by_cases hne : t = []
  · subst hne
    have blank : ∀ c ∈ a ++ [] ++ b, isBlank c = true := by
      simpa [or_imp, forall_and] using ⟨ha, hb⟩
    have gone := dropWhile_isBlank_append (s := []) blank nofun
    rw [List.append_nil] at gone
    rw [trimBlanks, gone]
    rfl
  · have front : (a ++ t ++ b).dropWhile isBlank = t ++ b := by
      rw [List.append_assoc]
      refine dropWhile_isBlank_append ha fun c hc => ht c (.inl ?_)
      rwa [List.head?_append_of_ne_nil _ hne] at hc
    have back : (b.reverse ++ t.reverse).dropWhile isBlank = t.reverse := by
      refine dropWhile_isBlank_append (fun c hc => hb c (List.mem_reverse.1 hc)) fun c hc => ?_
      exact ht c (.inr (by rwa [List.head?_reverse] at hc))
    rw [trimBlanks, front, List.reverse_append, back, List.reverse_reverse]

theorem trims_trimBlanks (s : String) : Trims s (String.ofList (trimBlanks s.toList)) := by
  let rest := s.toList.dropWhile isBlank
  let before := s.toList.takeWhile isBlank
  let after := (rest.reverse.takeWhile isBlank).reverse
  have split : rest = trimBlanks s.toList ++ after := by
    rw [trimBlanks, ← List.reverse_append, List.takeWhile_append_dropWhile, List.reverse_reverse]
  refine ⟨⟨String.ofList before, String.ofList after, ?_, ?_, ?_⟩, ?_⟩
  · rw [← String.toList_inj]
    simp only [String.toList_append, String.toList_ofList, List.append_assoc, ← split]
    exact List.takeWhile_append_dropWhile.symm
  · rw [String.toList_ofList]
    exact fun c hc => List.all_eq_true.1 List.all_takeWhile c hc
  · rw [String.toList_ofList]
    exact fun c hc => List.all_eq_true.1 List.all_takeWhile c (List.mem_reverse.1 hc)
  · rw [String.toList_ofList]
    rintro c (hc | hc)
    · apply head?_dropWhile_isBlank (s := s.toList)
      change rest.head? = some c
      rw [split, List.head?_append, hc]
      rfl
    · rw [trimBlanks, List.getLast?_reverse] at hc
      exact head?_dropWhile_isBlank hc

theorem Trims.trimBlanks_eq {s t : String} (h : Trims s t) : trimBlanks s.toList = t.toList := by
  obtain ⟨⟨before, after, rfl, hbefore, hafter⟩, ends⟩ := h
  rw [String.toList_append, String.toList_append]
  exact trimBlanks_append hbefore hafter ends

end Trimming

/-! ### Lists put together -/

theorem importItems_append (a b : List Char) :
    importItems (a ++ ',' :: b) = importItems a ++ importItems b := by
  rw [importItems, pieces_append_sep, List.map_append, List.filter_append]
  rfl

/-- A list of two parts fails as the first part fails, or else as the second one does; otherwise it
asks for what they both ask for. -/
theorem importNames_append (a b : String) :
    importNames (a ++ "," ++ b) =
      match importNames a, importNames b with
      | .error piece, _ => .error piece
      | .ok _, .error piece => .error piece
      | .ok names, .ok names' => .ok (names ++ names') := by
  have text : (a ++ "," ++ b).toList = a.toList ++ ',' :: b.toList := by simp
  rw [importNames, text, importItems_append, List.mapM_append, ← importNames, ← importNames]
  cases importNames a with
  | error piece => rfl
  | ok names => cases importNames b <;> rfl

/-! ### Names -/

theorem isBlank_eq_false_of_isNameChar {c : Char} (h : isNameChar c = true) :
    isBlank c = false := by
  have range : c.toNat = 36 ∨ 48 ≤ c.toNat ∧ c.toNat ≤ 122 := by
    delta isNameChar Char.isAlphanum Char.isAlpha Char.isUpper Char.isLower Char.isDigit at h
    simp [UInt32.le_iff_toNat_le, Char.ext_iff, ← UInt32.toNat_inj] at h
    omega
  have outside : ∀ r ∈ blankRanges, r.2 < 36 ∨ 122 < r.1 := by decide
  rw [isBlank, List.any_eq_false]
  intro r hr
  have := outside r hr
  simp only [Bool.and_eq_true, decide_eq_true_eq]
  omega

theorem isNameChar_of_leadingName {item : List Char} {name : String}
    (h : leadingName item = .ok name) : name ≠ "" ∧ ∀ c ∈ name.toList, isNameChar c = true := by
  simp only [leadingName] at h
  split at h
  · cases h
  next hne =>
    injection h with h
    subst h
    rw [String.toList_ofList]
    exact ⟨mt String.ofList_eq_empty_iff.1 hne, fun c hc => List.all_eq_true.1 List.all_takeWhile c hc⟩

theorem isNameChar_of_importNames {content : String} {names : List String}
    (h : importNames content = .ok names) :
    ∀ name ∈ names, name ≠ "" ∧ ∀ c ∈ name.toList, isNameChar c = true := by
  intro name hname
  obtain ⟨item, -, hitem⟩ := exists_of_mem_of_mapM_eq_ok h hname
  exact isNameChar_of_leadingName hitem

/-! ### Single items -/

theorem importNames_of_not_mem {p : String} (h : ',' ∉ p.toList) :
    importNames p =
      if trimBlanks p.toList = [] then .ok [] else (leadingName (trimBlanks p.toList)).map ([·]) := by
  rw [importNames, importItems, pieces_of_not_mem h, List.map_singleton]
  split
  next hp =>
    rw [hp]
    rfl
  next hp =>
    rw [List.filter_cons_of_pos (by simpa using hp), List.filter_nil, List.mapM_cons]
    cases leadingName (trimBlanks p.toList) <;> rfl

theorem not_mem_of_forall_isBlank {s : List Char} (h : ∀ c ∈ s, isBlank c = true) : ',' ∉ s :=
  fun hc => absurd (h _ hc) (by decide)

theorem importNames_of_blank {p : String} (h : ∀ c ∈ p.toList, isBlank c = true) :
    importNames p = .ok [] := by
  have trimmed : Trims p "" := ⟨⟨p, "", by simp, h, by simp⟩, by simp⟩
  rw [importNames_of_not_mem (not_mem_of_forall_isBlank h), trimmed.trimBlanks_eq]
  rfl

theorem exists_trims_and_importNames_eq {p : String} (h : ',' ∉ p.toList) :
    ∃ t name rest, Trims p t ∧ t = name ++ rest ∧ (∀ c ∈ name.toList, isNameChar c = true) ∧
      (∀ c, rest.toList.head? = some c → isNameChar c = false) ∧
      importNames p = if t = "" then .ok [] else if name = "" then .error t else .ok [name] := by
  let item := trimBlanks p.toList
  refine ⟨String.ofList item, String.ofList (item.takeWhile isNameChar),
    String.ofList (item.dropWhile isNameChar), trims_trimBlanks p, ?_, ?_, ?_, ?_⟩
  · rw [← String.ofList_append, List.takeWhile_append_dropWhile]
  · rw [String.toList_ofList]
    exact fun c hc => List.all_eq_true.1 List.all_takeWhile c hc
  · rw [String.toList_ofList]
    intro c hc
    have first := List.head?_dropWhile_not isNameChar item
    rw [hc] at first
    exact first
  · rw [importNames_of_not_mem h, leadingName]
    simp only [String.ofList_eq_empty_iff]
    split
    · rfl
    · split <;> rfl

/-! ### Names joined to a list -/

section Pads

variable {s p before after : String}

theorem Pads.refl (s : String) : Pads s s := ⟨"", "", by simp, by simp, by simp⟩

theorem Pads.append (h : Pads s p) (hbefore : ∀ c ∈ before.toList, isBlank c = true)
    (hafter : ∀ c ∈ after.toList, isBlank c = true) : Pads s (before ++ p ++ after) := by
  obtain ⟨left, right, rfl, hleft, hright⟩ := h
  refine ⟨before ++ left, right ++ after, by simp only [String.append_assoc], ?_, ?_⟩
  · simpa [or_imp, forall_and] using ⟨hbefore, hleft⟩
  · simpa [or_imp, forall_and] using ⟨hright, hafter⟩

end Pads

theorem importNames_of_pads {name p : String} (hne : name ≠ "")
    (hname : ∀ c ∈ name.toList, isNameChar c = true) (hp : Pads name p) :
    importNames p = .ok [name] := by
  have trimmed : Trims p name := by
    refine ⟨hp, fun c hc => isBlank_eq_false_of_isNameChar (hname c ?_)⟩
    exact hc.elim List.mem_of_head? List.mem_of_getLast?
  have comma : ',' ∉ p.toList := by
    obtain ⟨before, after, rfl, hbefore, hafter⟩ := hp
    simp only [String.toList_append, List.mem_append, not_or]
    exact ⟨⟨not_mem_of_forall_isBlank hbefore, fun hc => absurd (hname _ hc) (by decide)⟩,
      not_mem_of_forall_isBlank hafter⟩
  have taken : name.toList.takeWhile isNameChar = name.toList :=
    List.takeWhile_eq_self_iff.2 hname
  have item : name.toList ≠ [] := mt String.toList_eq_nil_iff.1 hne
  rw [importNames_of_not_mem comma, trimmed.trimBlanks_eq, if_neg item, leadingName, taken]
  simp only [if_neg item, String.ofList_toList]
  rfl

/-- Names that are joined to a list are read back, whatever blanks stand around the names and the
commas. -/
theorem importNames_intercalate {sep : String} {names items : List String} {content : String}
    (hsep : Pads "," sep) (hitems : List.Forall₂ Pads names items)
    (hnames : ∀ name ∈ names, name ≠ "" ∧ ∀ c ∈ name.toList, isNameChar c = true)
    (hcontent : Pads (sep.intercalate items) content) : importNames content = .ok names := by
  induction hitems generalizing content with
  | nil =>
    obtain ⟨before, after, rfl, hbefore, hafter⟩ := hcontent
    apply importNames_of_blank
    simpa [or_imp, forall_and] using ⟨hbefore, hafter⟩
  | @cons name item names items hitem hitems ih =>
    rw [List.forall_mem_cons] at hnames
    obtain ⟨⟨hne, hname⟩, hnames⟩ := hnames
    obtain ⟨before, after, rfl, hbefore, hafter⟩ := hcontent
    cases items with
    | nil =>
      obtain rfl : names = [] := List.forall₂_nil_right_iff.1 hitems
      rw [String.intercalate_singleton]
      exact importNames_of_pads hne hname (hitem.append hbefore hafter)
    | cons next items =>
      -- The comma parts the blanks of the separator, which go to the items on its two sides.
      obtain ⟨left, right, rfl, hleft, hright⟩ := hsep
      have first : importNames (before ++ item ++ left) = .ok [name] :=
        importNames_of_pads hne hname (hitem.append hbefore hleft)
      have others := ih hnames ((Pads.refl _).append hright hafter)
      have text : before ++ (left ++ "," ++ right).intercalate (item :: next :: items) ++ after =
          before ++ item ++ left ++ "," ++
            (right ++ (left ++ "," ++ right).intercalate (next :: items) ++ after) := by
        simp only [String.intercalate_cons_cons, String.append_assoc]
      rw [text, importNames_append, first, others]
      rfl

/-! ### The specification -/

/-- `read` reads lists as they are put together. -/
structure ReadsLists (read : String → Except String (List String)) : Prop where
  /-- The first failure is that of the whole list. -/
  append : ∀ a b, read (a ++ "," ++ b) =
    match read a, read b with
    | .error piece, _ => .error piece
    | .ok _, .error piece => .error piece
    | .ok names, .ok names' => .ok (names ++ names')
  blank : ∀ p, (∀ c ∈ p.toList, isBlank c = true) → read p = .ok []
  /-- Between two commas, all that counts is the longest name at the start of the trimmed text. -/
  item : ∀ p, ',' ∉ p.toList →
    ∃ t name rest, Trims p t ∧ t = name ++ rest ∧ (∀ c ∈ name.toList, isNameChar c = true) ∧
      (∀ c, rest.toList.head? = some c → isNameChar c = false) ∧
      read p = if t = "" then .ok [] else if name = "" then .error t else .ok [name]
  /-- Names joined by commas are read back, whatever blanks stand around the names and commas. -/
  joined : ∀ sep names items content, Pads "," sep → List.Forall₂ Pads names items →
    Pads (sep.intercalate items) content →
    (∀ name ∈ names, name ≠ "" ∧ ∀ c ∈ name.toList, isNameChar c = true) →
    read content = .ok names
  /-- What was read is read again in the list of the names alone. -/
  again : ∀ content names, read content = .ok names → read (", ".intercalate names) = .ok names

/-- Lists are read item by item, and what was read is read again. -/
theorem importNames_readsLists : ReadsLists importNames := by
  constructor
  case append => exact importNames_append
  case blank =>
    intro p h
    exact importNames_of_blank h
  case item =>
    intro p h
    exact exists_trims_and_importNames_eq h
  case joined =>
    intro sep names items content hsep hitems hcontent hnames
    exact importNames_intercalate hsep hitems hnames hcontent
  case again =>
    intro content names h
    have space : ∀ c ∈ " ".toList, isBlank c = true := List.forall_mem_singleton.2 (by decide)
    have comma : Pads "," ", " := ⟨"", " ", rfl, List.forall_mem_nil _, space⟩
    have plain : List.Forall₂ Pads names names := List.forall₂_same.2 fun name _ => Pads.refl name
    exact importNames_intercalate comma plain (isNameChar_of_importNames h) (Pads.refl _)

example : importNames "\u2003ic_a as A,, $b\u00a0,, c-d ," = .ok ["ic_a", "$b", "c"] := by
  decide +kernel

example : importNames "a, \u3000'b' as c , +" = .error "'b' as c" := by decide +kernel

end IconImports
