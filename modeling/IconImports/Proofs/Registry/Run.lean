import IconImports.Proofs.Registry.Numbered
import Mathlib.Algebra.Group.Nat.Defs

/-!
# Runs of a registry

A run makes calls on one registry, in any order, and goes on after a call that fails.
`register_cases` says what registering does: while there is room it pushes the entry under the next
numeral, and afterwards it fails. So a call keeps the registry numbered (`numbered_after`) and only
adds to it (`extends_after`), and with that a run does (`numbered_run`, `extends_run`).

`run_allocates` says what this means for the identifiers of a registry that a run has led to.
-/

namespace IconImports

inductive Registry.Call
  | register (entry : Entry)
  | ensureCapacity (count : Nat)

namespace Registry

/-- The registry after a call. A call that fails leaves it as it is. -/
def after (r : Registry) : Call → Registry
  | .register entry =>
    match r.register entry with
    | .error _ => r
    | .ok (_, r') => r'
  | .ensureCapacity _ => r

def run (r : Registry) (calls : List Call) : Registry := calls.foldl after r

variable {r : Registry}

/-! ### What a call does -/

/-- All that registering can do. -/
theorem register_cases (h : r.Numbered) (entry : Entry) :
    (r.size < ModuleId.capacity ∧
      r.register entry = .ok (ModuleId.ofIndex r.size, r.push entry)) ∨
    (r.size = ModuleId.capacity ∧ r.register entry = .error .idSpaceExhausted) := by
  by_cases hlt : r.size < ModuleId.capacity
  · refine .inl ⟨hlt, ?_⟩
    rw [register, nextId_eq hlt]
    rfl
  · have hle := h.size_le
    refine .inr ⟨by omega, ?_⟩
    rw [register, nextId_eq_error (by omega)]
    rfl

theorem after_cases (h : r.Numbered) (call : Call) :
    r.after call = r ∨ ∃ entry, r.size < ModuleId.capacity ∧ r.after call = r.push entry := by
  cases call with
  | ensureCapacity count => exact .inl rfl
  | register entry =>
    obtain ⟨hlt, hreg⟩ | ⟨-, hreg⟩ := register_cases h entry
    · exact .inr ⟨entry, hlt, by rw [after, hreg]⟩
    · exact .inl (by rw [after, hreg])

theorem numbered_after (h : r.Numbered) (call : Call) : (r.after call).Numbered := by
  obtain hr | ⟨entry, hlt, hr⟩ := after_cases h call
  · rwa [hr]
  · rw [hr]
    exact h.push hlt entry

theorem extends_after (h : r.Numbered) (call : Call) : r.Extends (r.after call) := by
  obtain hr | ⟨entry, hlt, hr⟩ := after_cases h call
  · rw [hr]
    exact .refl r
  · rw [hr, Extends, h.toList_push hlt]
    exact List.prefix_append _ _

/-! ### What a run does -/

theorem numbered_run (h : r.Numbered) (calls : List Call) : (r.run calls).Numbered := by
  induction calls generalizing r with
  | nil => exact h
  | cons call calls ih => exact ih (numbered_after h call)

theorem extends_run (h : r.Numbered) (calls : List Call) : r.Extends (r.run calls) := by
  induction calls generalizing r with
  | nil => exact .refl r
  | cons call calls ih => exact (extends_after h call).trans (ih (numbered_after h call))

/-! ### Identifiers -/

theorem Numbered.value?_of_getElem? (h : r.Numbered) {i : Nat} {id : ModuleId} {entry : Entry}
    (hi : r.toList[i]? = some (id, entry)) :
    id.text.length = ModuleId.width ∧ Base36.value? id.text.toList = some i := by
  have hlt : i < r.size := by
    rw [← length_toList]
    exact (List.getElem?_eq_some_iff.1 hi).1
  obtain rfl : id = ModuleId.ofIndex i := h.fst_of_getElem? hi
  rw [← String.length_toList, ModuleId.toList_text_ofIndex, Base36.length_numeral]
  exact ⟨rfl, Base36.value?_numeral (Nat.lt_of_lt_of_le hlt h.size_le)⟩

theorem Numbered.pairwise_keys (h : r.Numbered) : (r.toList.map Prod.fst).Pairwise (· < ·) := by
  rw [h.keys, List.pairwise_map]
  refine List.pairwise_lt_range.imp_of_mem fun _ hj hlt => ?_
  rw [List.mem_range] at hj
  exact ModuleId.ofIndex_lt_ofIndex hlt (Nat.lt_of_lt_of_le hj h.size_le)

/-- The identifiers of `r` are handed out one after the other, and each is kept by its entry. -/
structure Allocates (r : Registry) : Prop where
  size_le : r.size ≤ 36 ^ 4
  /-- The identifier of an entry is its number, in four digits. -/
  numeral : ∀ i id entry, r.toList[i]? = some (id, entry) →
    id.text.length = 4 ∧ Base36.value? id.text.toList = some i
  nodup : (r.toList.map Prod.fst).Nodup
  increasing : (r.toList.map Prod.fst).Pairwise (· < ·)
  /-- Registering goes on until every identifier is in use. -/
  room : ∀ entry, (∃ id r', r.register entry = .ok (id, r')) ↔ r.size < 36 ^ 4
  registered : ∀ entry id r', r.register entry = .ok (id, r') →
    r.contains id.text = false ∧ r'.contains id.text = true ∧ r'.get? id.text = some entry ∧
      r'.size = r.size + 1
  failed : ∀ entry e, r.register entry = .error e → r.after (.register entry) = r
  /-- Whatever is called later, an identifier leads to the same entry. -/
  kept : ∀ id entry, r.get? id = some entry → ∀ later, (r.run later).get? id = some entry

/-- Every run of a new registry hands out identifiers one after the other. -/
theorem run_allocates (calls : List Call) : Allocates (run ∅ calls) := by
  have h := numbered_run numbered_empty calls
  generalize run ∅ calls = r at h
  constructor
  case size_le => exact h.size_le
  case numeral =>
    intro i id entry hi
    exact h.value?_of_getElem? hi
  case nodup => exact r.entries.nodup_keys
  case increasing => exact h.pairwise_keys
  case room =>
    intro entry
    obtain ⟨hlt, hreg⟩ | ⟨hfull, hreg⟩ := register_cases h entry
    · exact ⟨fun _ => hlt, fun _ => ⟨_, _, hreg⟩⟩
    · rw [hreg]
      constructor
      · rintro ⟨id, r', hr'⟩
        cases hr'
      · intro hlt
        exact absurd hfull (Nat.ne_of_lt hlt)
  case registered =>
    intro entry id r' hr'
    obtain ⟨hlt, hreg⟩ | ⟨-, hreg⟩ := register_cases h entry
    · rw [hreg] at hr'
      cases hr'
      have stored : (r.push entry).get? (ModuleId.ofIndex r.size).text = some entry := by
        rw [get?_eq_some_iff_mem, h.toList_push hlt]
        simp
      have new : r.get? (ModuleId.ofIndex r.size).text = none := h.get?_next hlt
      rw [contains_eq_isSome_get?, contains_eq_isSome_get?, stored, new]
      exact ⟨rfl, rfl, rfl, h.size_push hlt entry⟩
    · rw [hreg] at hr'
      cases hr'
  case failed =>
    intro entry e he
    rw [after, he]
  case kept =>
    intro id entry he later
    exact (extends_run h later).get? he

end Registry

end IconImports
