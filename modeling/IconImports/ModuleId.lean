import IconImports.Base36

/-!
# Identifiers of virtual modules

A `ModuleId` is four digits in base 36, so that it is as long as the name of the package which it
replaces. `ModuleId.ofIndex?` writes a number below `ModuleId.capacity` as an identifier, and
`ModuleId.index?` reads it back (`index?_ofIndex`) and reads nothing else
(`toList_text_ofIndex_of_index?`), so different numbers have different identifiers
(`ofIndex_inj`). Identifiers are ordered as their texts are, which is the order of their numbers
(`ofIndex_lt_ofIndex`).
-/

namespace IconImports

/-- The name of one virtual module. -/
structure ModuleId where
  text : String
  deriving DecidableEq

namespace ModuleId

instance : Ord ModuleId := ⟨compareOn text⟩

instance : LT ModuleId := ⟨fun a b => a.text < b.text⟩

instance : Std.TransOrd ModuleId := inferInstanceAs (Std.TransCmp (compareOn text))

instance : Std.LawfulEqOrd ModuleId where
  eq_of_compare {a b} h := by
    cases a
    cases b
    exact congrArg mk (Std.LawfulEqOrd.eq_of_compare h)

def width : Nat := 4

def capacity : Nat := Nat.pow 36 width

/-- The identifier with number `index`, if there are that many: its digits, with zeros in front of a
shorter number. -/
def ofIndex? (index : Nat) : Option ModuleId :=
  if index < capacity then
    let digits := Base36.lastDigits index
    some ⟨String.ofList (List.replicate (width - digits.length) '0' ++ digits.reverse)⟩
  else none

/-- The number of the identifier that is written `s`. -/
def index? (s : List Char) : Option Nat :=
  if s.length = width then Base36.value? s else none

/-- The identifier of a number that has no more than four digits. -/
def ofIndex (index : Nat) : ModuleId := ⟨String.ofList (Base36.numeral width index)⟩

theorem ofIndex?_eq_some {index : Nat} (h : index < capacity) :
    ofIndex? index = some (ofIndex index) := by
  have padded : List.replicate (width - (Base36.lastDigits index).length) '0' ++
      (Base36.lastDigits index).reverse = Base36.numeral width index :=
    Base36.padded_lastDigits h
  simp only [ofIndex?, if_pos h, padded, ofIndex]

theorem ofIndex?_eq_none {index : Nat} (h : capacity ≤ index) : ofIndex? index = none :=
  if_neg (by omega)

theorem ofIndex?_eq_some_iff {index : Nat} {id : ModuleId} :
    ofIndex? index = some id ↔ index < capacity ∧ id = ofIndex index := by
  by_cases h : index < capacity
  · simp [ofIndex?_eq_some h, h, eq_comm]
  · simp [ofIndex?_eq_none (Nat.not_lt.1 h), h]

theorem toList_text_ofIndex (index : Nat) :
    (ofIndex index).text.toList = Base36.numeral width index :=
  String.toList_ofList

theorem index?_ofIndex {index : Nat} (h : index < capacity) :
    index? (ofIndex index).text.toList = some index := by
  rw [toList_text_ofIndex, index?, if_pos (Base36.length_numeral ..)]
  exact Base36.value?_numeral h

theorem toList_text_ofIndex_of_index? {s : List Char} {i : Nat} (h : index? s = some i) :
    (ofIndex i).text.toList = s := by
  unfold index? at h
  split at h
  next hlen =>
    rw [toList_text_ofIndex, ← hlen]
    exact Base36.numeral_of_value? h
  · cases h

theorem ofIndex_inj {i j : Nat} (hi : i < capacity) (hj : j < capacity)
    (h : ofIndex i = ofIndex j) : i = j := by
  have := index?_ofIndex hi
  rw [h, index?_ofIndex hj] at this
  exact (Option.some.inj this).symm

theorem ofIndex_lt_ofIndex {i j : Nat} (h : i < j) (hj : j < capacity) :
    ofIndex i < ofIndex j := by
  change (ofIndex i).text < (ofIndex j).text
  rw [String.lt_iff, toList_text_ofIndex, toList_text_ofIndex]
  exact Base36.numeral_lt_numeral h hj

end ModuleId

end IconImports
