import IconImports.Text.Extent
import Mathlib.Data.List.Basic

/-!
# Texts seen as bytes

`utf8Bytes` are the bytes of a text, and `replace?` writes a word over a span of one. What two texts
have in common byte by byte is built up from left to right: the lemmas on `getElem?` compare two
texts whose parts are equally long. Texts are ordered as their bytes are (`utf8Bytes_lt_iff`).
-/

namespace IconImports

/-- The bytes of a text. -/
def utf8Bytes (s : String) : List UInt8 := s.toByteArray.data.toList

/-- The text with `word` in the place of what stands in a span. -/
def replace? (s : String) (span : Span) (word : String) : Option String := do
  let before ← slice? s ⟨0, span.start⟩
  let after ← slice? s ⟨span.stop, s.utf8ByteSize⟩
  return before ++ word ++ after

@[simp]
theorem length_utf8Bytes (s : String) : (utf8Bytes s).length = s.utf8ByteSize := by
  rw [utf8Bytes, ← String.size_toByteArray]
  rfl

theorem utf8Bytes_append (s t : String) : utf8Bytes (s ++ t) = utf8Bytes s ++ utf8Bytes t := by
  simp [utf8Bytes]

theorem utf8Bytes_ofList_append (s t : List Char) :
    utf8Bytes (String.ofList (s ++ t)) =
      utf8Bytes (String.ofList s) ++ utf8Bytes (String.ofList t) := by
  rw [String.ofList_append, utf8Bytes_append]

section Agreement

variable {a a' b b' : List Char} {i : Nat}

/-- Two texts that agree at a byte go on to agree there when both are continued in the same way. -/
theorem getElem?_utf8Bytes_append (hlen : byteLength a = byteLength a')
    (h : (utf8Bytes (String.ofList a))[i]? = (utf8Bytes (String.ofList a'))[i]?) (b : List Char) :
    (utf8Bytes (String.ofList (a ++ b)))[i]? = (utf8Bytes (String.ofList (a' ++ b)))[i]? := by
  simp only [utf8Bytes_ofList_append, List.getElem?_append, length_utf8Bytes, utf8ByteSize_ofList,
    hlen, h]

/-- Two texts that agree at a byte go on to agree there when they are continued in equally long ways
that leave the byte out. -/
theorem getElem?_utf8Bytes_append_of_not_mem (hlen : byteLength a = byteLength a')
    (hlen' : byteLength b = byteLength b')
    (h : (utf8Bytes (String.ofList a))[i]? = (utf8Bytes (String.ofList a'))[i]?)
    (hi : i < byteLength a ∨ byteLength (a ++ b) ≤ i) :
    (utf8Bytes (String.ofList (a ++ b)))[i]? = (utf8Bytes (String.ofList (a' ++ b')))[i]? := by
  obtain hi | hi := hi
  · simp only [utf8Bytes_ofList_append, List.getElem?_append, length_utf8Bytes,
      utf8ByteSize_ofList, ← hlen, if_pos hi, h]
  · rw [List.getElem?_eq_none (by simpa using hi), List.getElem?_eq_none]
    simpa [← hlen, ← hlen'] using hi

end Agreement

theorem replace?_of_toList_eq {s : String} {a b c : List Char} (h : s.toList = a ++ b ++ c)
    (word : String) :
    replace? s ⟨byteLength a, byteLength (a ++ b)⟩ word =
      some (String.ofList a ++ word ++ String.ofList c) := by
  have before := slice?_of_toList_eq (a := []) (b := a) (c := b ++ c) (by simpa using h)
  rw [byteLength_nil, List.nil_append] at before
  rw [replace?, before, slice?_to_end h]
  rfl

/-! ### The order of bytes -/

theorem utf8Bytes_ofList (s : List Char) :
    utf8Bytes (String.ofList s) = s.flatMap String.utf8EncodeChar := by
  simp [utf8Bytes, List.utf8Encode]

/-- The bytes of the smaller character come first, whatever follows. -/
theorem utf8EncodeChar_append_lt {c d : Char} (h : c < d) (s t : List UInt8) :
    String.utf8EncodeChar c ++ s < String.utf8EncodeChar d ++ t := by
  have hlt : c.val.toNat < d.val.toNat := h
  have hd : d.val.toNat < 0x110000 := by
    have := d.valid
    simp only [UInt32.isValidChar, Nat.isValidChar] at this
    omega
  have byte {n : Nat} (hn : n < 256) : (UInt8.ofNat n).toNat = n := UInt8.toNat_ofNat_of_lt' hn
  -- Every byte but the first holds six bits, so that a character is cut by dividing by 64.
  have div_two (n : Nat) : n / 4096 = n / 64 / 64 := by omega
  have div_three (n : Nat) : n / 262144 = n / 64 / 64 / 64 := by omega
  unfold String.utf8EncodeChar
  dsimp only
  generalize c.val.toNat = m at *
  generalize d.val.toNat = n at *
  simp only [div_two, div_three]
  -- The number of bytes of `c` is at most that of `d`, and the first byte tells that number.
  split_ifs
  all_goals
    simp (disch := omega) only [List.cons_append, List.nil_append, List.cons_lt_cons_iff,
      UInt8.lt_iff_toNat_lt, ← UInt8.toNat_inj, byte]
    omega

theorem utf8Bytes_lt_utf8Bytes {s t : String} (h : s < t) : utf8Bytes s < utf8Bytes t := by
  rw [String.lt_iff] at h
  rw [← String.ofList_toList (s := s), ← String.ofList_toList (s := t), utf8Bytes_ofList,
    utf8Bytes_ofList]
  generalize s.toList = a at h
  generalize t.toList = b at h
  induction a generalizing b with
  | nil =>
    cases b with
    | nil => exact absurd h (List.not_lt_nil _)
    | cons d b =>
      obtain ⟨first, bytes, hd⟩ :=
        List.exists_cons_of_ne_nil (String.utf8EncodeChar_ne_nil (c := d))
      rw [List.flatMap_nil, List.flatMap_cons, hd, List.cons_append]
      exact List.nil_lt_cons _ _
  | cons c a ih =>
    cases b with
    | nil => exact absurd h (List.not_lt_nil _)
    | cons d b =>
      rw [List.flatMap_cons, List.flatMap_cons]
      obtain hcd | ⟨rfl, hab⟩ := List.cons_lt_cons_iff.1 h
      · exact utf8EncodeChar_append_lt hcd _ _
      · exact List.append_left_lt (ih b hab)

/-- Texts are ordered as their bytes are. -/
theorem utf8Bytes_lt_iff {s t : String} : utf8Bytes s < utf8Bytes t ↔ s < t := by
  constructor
  · intro h
    by_contra hge
    obtain hlt | rfl := Std.le_iff_lt_or_eq.1 (String.not_lt.1 hge)
    · exact List.lt_asymm h (utf8Bytes_lt_utf8Bytes hlt)
    · exact List.lt_irrefl _ h
  · exact utf8Bytes_lt_utf8Bytes

end IconImports
