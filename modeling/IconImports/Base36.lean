/-!
# Numerals in base 36

`lastDigits` writes a number without leading zeros, last digit first. A `numeral` of a fixed width
is padded with zeros on the left; `value?` reads a text of digits, of any length, and refuses a text
with any other character.

The main statements: padding the digits of a number gives its numeral (`padded_lastDigits`), reading
a numeral gives back the number (`value?_numeral`), every text of digits can be read (`exists_value?`)
and what can be read is a numeral (`numeral_of_value?`), and numerals of one width are ordered as
their numbers are (`numeral_lt_numeral`).
-/

namespace IconImports

namespace Base36

def digits : List Char :=
  ['0', '1', '2', '3', '4', '5', '6', '7', '8', '9', 'a', 'b', 'c', 'd', 'e', 'f', 'g', 'h', 'i',
    'j', 'k', 'l', 'm', 'n', 'o', 'p', 'q', 'r', 's', 't', 'u', 'v', 'w', 'x', 'y', 'z']

def digit (n : Nat) : Char := digits.getD n '0'

def digitValue? (c : Char) : Option Nat := digits.idxOf? c

/-- The digits of a number, last digit first; zero has one digit. -/
def lastDigits (n : Nat) : List Char :=
  digit (n % 36) :: if n / 36 = 0 then [] else lastDigits (n / 36)
termination_by n

/-- The last `width` digits of `n`, with zeros in front of a shorter number. -/
def numeral : Nat → Nat → List Char
  | 0, _ => []
  | width + 1, n => numeral width (n / 36) ++ [digit (n % 36)]

def value? (s : List Char) : Option Nat :=
  s.foldlM (fun n c => (digitValue? c).map (36 * n + ·)) 0

theorem digitValue?_digit {n : Nat} (h : n < 36) : digitValue? (digit n) = some n := by
  revert n
  decide

theorem digit_of_digitValue? {c : Char} {n : Nat} (h : digitValue? c = some n) :
    digit n = c ∧ n < 36 := by
  obtain ⟨hlt, hc, -⟩ := List.idxOf?_eq_some_iff.1 h
  exact ⟨by simpa [digit, List.getD_eq_getElem?_getD, hlt] using hc, hlt⟩

theorem exists_digitValue? {c : Char} (h : c ∈ digits) : ∃ d < 36, digitValue? c = some d := by
  cases hd : digitValue? c with
  | none => exact absurd h (List.idxOf?_eq_none_iff.1 hd)
  | some d => exact ⟨d, (digit_of_digitValue? hd).2, rfl⟩

theorem digit_mem_digits (n : Nat) : digit n ∈ digits := by
  rw [digit, List.getD_eq_getElem?_getD]
  cases h : digits[n]? with
  | none => decide
  | some c => exact List.mem_of_getElem? h

theorem mem_digits_of_mem_numeral {c : Char} {width n : Nat} (h : c ∈ numeral width n) :
    c ∈ digits := by
  induction width generalizing n with
  | zero => cases h
  | succ width ih =>
    rw [numeral, List.mem_append, List.mem_singleton] at h
    obtain h | rfl := h
    · exact ih h
    · exact digit_mem_digits _

@[simp]
theorem length_numeral (width n : Nat) : (numeral width n).length = width := by
  induction width generalizing n with
  | zero => rfl
  | succ width ih => simp [numeral, ih]

theorem numeral_zero (width : Nat) : numeral width 0 = List.replicate width '0' := by
  induction width with
  | zero => rfl
  | succ width ih => rw [numeral, ih, List.replicate_succ']; rfl

theorem div_lt_pow {width n : Nat} (h : n < Nat.pow 36 (width + 1)) : n / 36 < Nat.pow 36 width := by
  apply Nat.div_lt_of_lt_mul
  rw [Nat.mul_comm]
  exact h

theorem padded_lastDigits {width n : Nat} (h : n < Nat.pow 36 (width + 1)) :
    List.replicate (width + 1 - (lastDigits n).length) '0' ++ (lastDigits n).reverse =
      numeral (width + 1) n := by
  induction width generalizing n with
  | zero =>
    have h : n < 36 := h
    rw [lastDigits, if_pos (by omega)]
    rfl
  | succ width ih =>
    rw [lastDigits, numeral]
    split
    next h0 => simp [h0, numeral_zero]
    next h0 =>
      rw [← ih (div_lt_pow h)]
      simp

theorem value?_numeral {width n : Nat} (h : n < Nat.pow 36 width) :
    value? (numeral width n) = some n := by
  induction width generalizing n with
  | zero =>
    have h : n < 1 := h
    obtain rfl : n = 0 := by omega
    rfl
  | succ width ih =>
    have ih : value? (numeral width (n / 36)) = some (n / 36) := ih (div_lt_pow h)
    rw [numeral, value?, List.foldlM_append]
    simp only [value?] at ih
    rw [ih]
    simp [digitValue?_digit (Nat.mod_lt n (by decide)), Nat.div_add_mod]

/-- Reading on after a numeral gives the numeral with the digits that follow. -/
theorem numeral_of_foldlM {s : List Char} (width : Nat) {m n : Nat}
    (h : s.foldlM (fun n c => (digitValue? c).map (36 * n + ·)) m = some n) :
    numeral (width + s.length) n = numeral width m ++ s := by
  induction s generalizing width m with
  | nil =>
    obtain rfl : m = n := Option.some.inj h
    simp
  | cons c s ih =>
    rw [List.foldlM_cons, Option.bind_eq_bind, Option.bind_eq_some_iff] at h
    obtain ⟨_, hnext, h⟩ := h
    obtain ⟨d, hd, rfl⟩ := Option.map_eq_some_iff.1 hnext
    obtain ⟨hc, hlt⟩ := digit_of_digitValue? hd
    have front : (36 * m + d) / 36 = m := by omega
    have last : (36 * m + d) % 36 = d := by omega
    have read := ih (width + 1) h
    rw [numeral, front, last, hc, List.append_assoc, List.singleton_append] at read
    rwa [List.length_cons, ← Nat.succ_add_eq_add_succ]

/-- A text of digits is the numeral of the number that it reads as. -/
theorem numeral_of_value? {s : List Char} {n : Nat} (h : value? s = some n) :
    numeral s.length n = s := by
  have read := numeral_of_foldlM 0 h
  rwa [Nat.zero_add] at read

theorem exists_foldlM {s : List Char} (h : ∀ c ∈ s, c ∈ digits) (m : Nat) :
    ∃ n < (m + 1) * Nat.pow 36 s.length,
      s.foldlM (fun n c => (digitValue? c).map (36 * n + ·)) m = some n := by
  induction s generalizing m with
  | nil => exact ⟨m, by simp, rfl⟩
  | cons c s ih =>
    obtain ⟨d, hlt, hd⟩ := exists_digitValue? (h c List.mem_cons_self)
    obtain ⟨n, hn, read⟩ := ih (fun c hc => h c (List.mem_cons_of_mem _ hc)) (36 * m + d)
    refine ⟨n, ?_, by simp [hd, read]⟩
    calc n < (36 * m + d + 1) * Nat.pow 36 s.length := hn
      _ ≤ (m + 1) * 36 * Nat.pow 36 s.length := Nat.mul_le_mul_right _ (by omega)
      _ = (m + 1) * Nat.pow 36 (c :: s).length := by
        rw [List.length_cons, Nat.mul_assoc, Nat.mul_comm 36]
        rfl

theorem exists_value? {s : List Char} (h : ∀ c ∈ s, c ∈ digits) :
    ∃ n < Nat.pow 36 s.length, value? s = some n := by
  have read := exists_foldlM h 0
  rwa [Nat.zero_add, Nat.one_mul] at read

theorem mem_digits_iff {c : Char} :
    c ∈ digits ↔ ('0' ≤ c ∧ c ≤ '9') ∨ ('a' ≤ c ∧ c ≤ 'z') := by
  constructor
  · intro h
    have ranges : digits.all fun c => ('0' ≤ c ∧ c ≤ '9') ∨ ('a' ≤ c ∧ c ≤ 'z') := by decide
    simpa using List.all_eq_true.1 ranges c h
  · intro h
    have all : ∀ n < 123, (48 ≤ n ∧ n ≤ 57) ∨ (97 ≤ n ∧ n ≤ 122) → Char.ofNat n ∈ digits := by
      decide
    simp only [Char.le_def, UInt32.le_iff_toNat_le] at h
    have number := all c.toNat
    rw [Char.ofNat_toNat] at number
    exact number (by rcases h with h | h <;> exact Nat.lt_of_le_of_lt h.2 (by decide)) h

/-! ### The order of numerals -/

theorem digit_eq_getElem {n : Nat} (h : n < digits.length) : digit n = digits[n] := by
  rw [digit, List.getD_eq_getElem?_getD, List.getElem?_eq_getElem h, Option.getD_some]

theorem digit_lt_digit {m n : Nat} (h : m < n) (hn : n < 36) : digit m < digit n := by
  have sorted : digits.Pairwise (· < ·) := by decide
  rw [digit_eq_getElem (Nat.lt_trans h hn), digit_eq_getElem hn]
  exact List.pairwise_iff_getElem.1 sorted m n _ _ h

theorem append_lt_append {a b : List Char} (hlen : a.length = b.length) (h : a < b)
    (s t : List Char) : a ++ s < b ++ t := by
  induction a generalizing b with
  | nil =>
    obtain rfl := List.length_eq_zero_iff.1 hlen.symm
    exact absurd h (List.not_lt_nil _)
  | cons c a ih =>
    obtain ⟨d, b, rfl⟩ := List.exists_cons_of_length_eq_add_one hlen.symm
    rw [List.cons_lt_cons_iff] at h
    rw [List.cons_append, List.cons_append, List.cons_lt_cons_iff]
    exact h.imp_right fun ⟨hcd, hab⟩ => ⟨hcd, ih (by simpa using hlen) hab⟩

theorem numeral_lt_numeral {width i j : Nat} (h : i < j) (hj : j < Nat.pow 36 width) :
    numeral width i < numeral width j := by
  induction width generalizing i j with
  | zero =>
    have hj : j < 1 := hj
    omega
  | succ width ih =>
    rw [numeral, numeral]
    by_cases hlt : i / 36 < j / 36
    · exact append_lt_append (by simp) (ih hlt (div_lt_pow hj)) _ _
    · have same : i / 36 = j / 36 := by omega
      rw [same]
      apply List.append_left_lt
      rw [List.cons_lt_cons_iff]
      exact .inl (digit_lt_digit (by omega) (by omega))

end Base36

end IconImports
