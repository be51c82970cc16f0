import IconImports.ModuleId
import IconImports.Proofs.Text.Bytes
import Mathlib.Algebra.Group.Nat.Defs
import Mathlib.Logic.ExistsUnique

/-!
# Numbers and identifiers

The numbers below `ModuleId.capacity` and the words of four digits correspond to each other. A number
is written as a word and can be read from it (`isWord_ofIndex`), and every word is written for one
number (`existsUnique_ofIndex?`). The smaller number has the smaller identifier
(`ofIndex_lt_ofIndex_iff`), also if identifiers are compared byte by byte (`utf8Bytes_lt_iff`).

The main statement: `ofIndex?_enumerates`.
-/

namespace IconImports

namespace ModuleId

/-- What an identifier looks like: four digits or small letters. -/
structure IsWord (s : String) : Prop where
  length : s.length = 4
  alphabet : ∀ c ∈ s.toList, ('0' ≤ c ∧ c ≤ '9') ∨ ('a' ≤ c ∧ c ≤ 'z')

variable {i j : Nat}

theorem isWord_ofIndex (i : Nat) : IsWord (ofIndex i).text := by
  constructor
  case length =>
    rw [← String.length_toList, toList_text_ofIndex, Base36.length_numeral]
    rfl
  case alphabet =>
    intro c hc
    rw [toList_text_ofIndex] at hc
    exact Base36.mem_digits_iff.1 (Base36.mem_digits_of_mem_numeral hc)

theorem IsWord.exists_ofIndex {s : String} (h : IsWord s) :
    ∃ i < capacity, ofIndex i = ⟨s⟩ := by
  have hlen : s.toList.length = width := h.length
  have digits : ∀ c ∈ s.toList, c ∈ Base36.digits := by
    intro c hc
    exact Base36.mem_digits_iff.2 (h.alphabet c hc)
  obtain ⟨i, hi, read⟩ := Base36.exists_value? digits
  rw [hlen] at hi
  have written : (ofIndex i).text.toList = s.toList :=
    toList_text_ofIndex_of_index? (by rwa [index?, if_pos hlen])
  exact ⟨i, hi, by rw [← String.toList_inj.1 written]⟩

theorem existsUnique_ofIndex? {s : String} (h : IsWord s) : ∃! i, ofIndex? i = some ⟨s⟩ := by
  obtain ⟨i, hi, written⟩ := h.exists_ofIndex
  refine ⟨i, ofIndex?_eq_some_iff.2 ⟨hi, written.symm⟩, fun j hj => ?_⟩
  obtain ⟨hj, same⟩ := ofIndex?_eq_some_iff.1 hj
  exact ofIndex_inj hj hi (same.symm.trans written.symm)

theorem ofIndex_lt_ofIndex_iff (hi : i < capacity) (hj : j < capacity) :
    ofIndex i < ofIndex j ↔ i < j := by
  constructor
  · intro h
    by_contra hge
    obtain rfl | hlt := Nat.eq_or_lt_of_not_lt hge
    · exact String.lt_irrefl _ h
    · exact String.lt_asymm h (ofIndex_lt_ofIndex hlt hi)
  · exact fun h => ofIndex_lt_ofIndex h hj

/-- The numbers below `36 ^ 4` are written as the words of four digits, in order. -/
structure Enumerates (identifier? : Nat → Option ModuleId) : Prop where
  eq_none_iff : ∀ i, identifier? i = none ↔ 36 ^ 4 ≤ i
  numeral : ∀ i id, identifier? i = some id →
    IsWord id.text ∧ Base36.value? id.text.toList = some i
  lt_iff : ∀ i j id id', identifier? i = some id → identifier? j = some id' → (i < j ↔ id < id')
  /-- The order of identifiers is that of their bytes. -/
  bytes : ∀ id id' : ModuleId, id < id' ↔ utf8Bytes id.text < utf8Bytes id'.text
  injective : ∀ i j id, identifier? i = some id → identifier? j = some id → i = j
  /-- Every word is the identifier of one number. -/
  existsUnique : ∀ s, IsWord s → ∃! i, identifier? i = some ⟨s⟩

/-- Identifiers enumerate the words of four digits. -/
theorem ofIndex?_enumerates : Enumerates ofIndex? := by
  constructor
  case eq_none_iff =>
    intro i
    by_cases hi : i < capacity
    · rw [ofIndex?_eq_some hi]
      exact ⟨nofun, fun hle => absurd hi (Nat.not_lt.2 hle)⟩
    · exact ⟨fun _ => Nat.not_lt.1 hi, ofIndex?_eq_none⟩
  case numeral =>
    intro i id h
    obtain ⟨hi, rfl⟩ := ofIndex?_eq_some_iff.1 h
    refine ⟨isWord_ofIndex i, ?_⟩
    rw [toList_text_ofIndex]
    exact Base36.value?_numeral hi
  case lt_iff =>
    intro i j id id' h h'
    obtain ⟨hi, rfl⟩ := ofIndex?_eq_some_iff.1 h
    obtain ⟨hj, rfl⟩ := ofIndex?_eq_some_iff.1 h'
    exact (ofIndex_lt_ofIndex_iff hi hj).symm
  case bytes =>
    intro id id'
    exact utf8Bytes_lt_iff.symm
  case injective =>
    intro i j id h h'
    obtain ⟨hi, rfl⟩ := ofIndex?_eq_some_iff.1 h
    obtain ⟨hj, same⟩ := ofIndex?_eq_some_iff.1 h'
    exact ofIndex_inj hi hj same
  case existsUnique =>
    intro s h
    exact existsUnique_ofIndex? h

example : [0, 35, 36, 36 ^ 4 - 1].map ofIndex? =
    ["0000", "000z", "0010", "zzzz"].map fun s => some ⟨s⟩ := by decide +kernel

end ModuleId

end IconImports
