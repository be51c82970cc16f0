import Std.Data.TreeMap

/-!
# Maps in the order of insertion

An `OrderedMap` lists its keys in the order in which they were first stored, and finds the value of
a key by a tree of places. Storing a value under a key that is there already replaces the value and
leaves the key where it is.

The main statements: a key has a value exactly if the two stand in the list together
(`get?_eq_some_iff`), and a new key goes to its end (`toList_insert_of_get?_eq_none`).
-/

namespace IconImports

/-- The tree `places` tells for every key where it stands in `entries`; so no key stands there
twice. -/
def IsIndex {κ α : Type} [Ord κ] (entries : Array (κ × α)) (places : Std.TreeMap κ Nat) : Prop :=
  ∀ (k : κ) (i : Nat), places[k]? = some i ↔ entries[i]?.map Prod.fst = some k

namespace IsIndex

variable {κ α : Type} [Ord κ] {entries : Array (κ × α)} {places : Std.TreeMap κ Nat}

theorem setIfInBounds (h : IsIndex entries places) {k : κ} {i : Nat} (hk : places[k]? = some i)
    (v : α) : IsIndex (entries.setIfInBounds i (k, v)) places := by
  intro l j
  rw [h l j, Array.getElem?_setIfInBounds]
  by_cases hij : i = j
  · subst hij
    have hi := (h k i).1 hk
    rw [if_pos rfl, hi]
    obtain ⟨e, he, -⟩ := Option.map_eq_some_iff.1 hi
    rw [if_pos (Array.getElem?_eq_some_iff.1 he).1]
    rfl
  · rw [if_neg hij]

theorem push [Std.TransOrd κ] [Std.LawfulEqOrd κ] (h : IsIndex entries places) {k : κ}
    (hk : places[k]? = none) (v : α) :
    IsIndex (entries.push (k, v)) (places.insert k entries.size) := by
  intro l j
  have new : entries[j]?.map Prod.fst ≠ some k := by
    intro hj
    rw [(h k j).2 hj] at hk
    cases hk
  rw [Std.TreeMap.getElem?_insert, Array.getElem?_push]
  by_cases hj : j = entries.size
  · subst hj
    have none : entries[entries.size]? = none := Array.getElem?_eq_none (Nat.le_refl _)
    have hl : places[l]? ≠ some entries.size := by
      intro hl
      rw [h l, none] at hl
      cases hl
    by_cases hkl : k = l
    · simp [hkl]
    · simp [hkl, hl]
  · rw [if_neg hj]
    by_cases hkl : k = l
    · subst hkl
      simp [Ne.symm hj, new]
    · simp [hkl, h l j]

end IsIndex

/-- A map that keeps its keys in the order in which they were first stored. -/
structure OrderedMap (κ α : Type) [Ord κ] where
  entries : Array (κ × α)
  places : Std.TreeMap κ Nat
  isIndex : IsIndex entries places

namespace OrderedMap

variable {κ α : Type} [Ord κ]

def size (m : OrderedMap κ α) : Nat := m.entries.size

def toList (m : OrderedMap κ α) : List (κ × α) := m.entries.toList

def get? (m : OrderedMap κ α) (k : κ) : Option α :=
  m.places[k]?.bind fun i => m.entries[i]?.map Prod.snd

def contains (m : OrderedMap κ α) (k : κ) : Bool := m.places.contains k

/-! ### What is in a map -/

@[simp]
theorem length_toList (m : OrderedMap κ α) : m.toList.length = m.size := by
  simp [toList, size]

theorem get?_eq_some_iff (m : OrderedMap κ α) {k : κ} {v : α} :
    m.get? k = some v ↔ (k, v) ∈ m.toList := by
  simp only [get?, toList, Option.bind_eq_some_iff, Option.map_eq_some_iff, m.isIndex k,
    Array.mem_toList_iff, Array.mem_iff_getElem?]
  constructor
  · rintro ⟨i, ⟨⟨_, w⟩, hi, rfl⟩, ⟨_, _⟩, hi', rfl⟩
    obtain ⟨rfl, rfl⟩ : _ = _ ∧ _ = _ := by simpa [hi] using hi'
    exact ⟨i, hi⟩
  · rintro ⟨i, hi⟩
    exact ⟨i, ⟨_, hi, rfl⟩, _, hi, rfl⟩

/-- No key stands in the list twice. -/
theorem nodup_keys (m : OrderedMap κ α) : (m.toList.map Prod.fst).Nodup := by
  refine List.pairwise_iff_getElem.2 ?_
  intro i j hi hj hij heq
  have key : ∀ n : Nat, (m.toList.map Prod.fst)[n]? = m.entries[n]?.map Prod.fst := by simp [toList]
  have hi' := (m.isIndex _ i).2 ((key i).symm.trans (List.getElem?_eq_getElem hi))
  have hj' := (m.isIndex _ j).2 ((key j).symm.trans (List.getElem?_eq_getElem hj))
  rw [heq, hj'] at hi'
  exact absurd (Option.some.inj hi') (by omega)

variable [Std.TransOrd κ]

theorem contains_eq_isSome_get? (m : OrderedMap κ α) (k : κ) :
    m.contains k = (m.get? k).isSome := by
  rw [contains, Std.TreeMap.contains_eq_isSome_getElem?, get?]
  cases h : m.places[k]? with
  | none => rfl
  | some i =>
    obtain ⟨e, he, -⟩ := Option.map_eq_some_iff.1 ((m.isIndex k i).1 h)
    simp [he]

/-! ### Building a map -/

def empty : OrderedMap κ α := ⟨#[], ∅, fun k i => by simp⟩

instance : EmptyCollection (OrderedMap κ α) := ⟨empty⟩

@[simp]
theorem toList_empty : (∅ : OrderedMap κ α).toList = [] := rfl

variable [Std.LawfulEqOrd κ]

def insert (m : OrderedMap κ α) (k : κ) (v : α) : OrderedMap κ α :=
  let ⟨entries, places, isIndex⟩ := m
  match h : places[k]? with
  | some i => ⟨entries.setIfInBounds i (k, v), places, isIndex.setIfInBounds h v⟩
  | none =>
    -- The size is read before the array grows, so that the array need not be copied.
    let placed := places.insert k entries.size
    ⟨entries.push (k, v), placed, isIndex.push h v⟩

theorem toList_insert_of_get?_eq_none {m : OrderedMap κ α} {k : κ} (h : m.get? k = none) (v : α) :
    (m.insert k v).toList = m.toList ++ [(k, v)] := by
  have hk : m.places[k]? = none := by
    have := m.contains_eq_isSome_get? k
    rw [h, contains, Std.TreeMap.contains_eq_isSome_getElem?] at this
    exact Option.isSome_eq_false_iff.1 this |> Option.isNone_iff_eq_none.1
  obtain ⟨entries, places, isIndex⟩ := m
  simp only [insert]
  split
  next hi => simp [hk] at hi
  · simp [toList]

end OrderedMap

end IconImports
