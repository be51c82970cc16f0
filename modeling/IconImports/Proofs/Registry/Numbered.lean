import IconImports.Registry
import Mathlib.Data.List.Basic

/-!
# Registries whose identifiers count

A registry is `Numbered` if the identifiers of its entries are the numerals of `0`, `1`, `2` and so
on, up to at most the last identifier. The empty registry is, and registering keeps it so
(`Numbered.push`, `Numbered.append`): the identifier of the next entry is new, so no entry is ever
replaced.

In a numbered registry an identifier leads to the entry whose place it names
(`Numbered.get?_eq_some_iff`), and it leads there in every registry that extends it
(`Extends.get?`).
-/

namespace IconImports

/-- The identifiers of `count` numbers from `start` on. -/
def ModuleId.range (start count : Nat) : List ModuleId := (List.range' start count).map ofIndex

theorem ModuleId.range_succ (start count : Nat) :
    range start (count + 1) = ofIndex start :: range (start + 1) count := by
  rw [range, List.range'_succ]
  rfl

@[simp]
theorem ModuleId.length_range (start count : Nat) : (range start count).length = count := by
  simp [range]

namespace Registry

/-- The identifiers are the numerals of the places of their entries. -/
structure Numbered (r : Registry) : Prop where
  size_le : r.size ≤ ModuleId.capacity
  keys : r.toList.map Prod.fst = (List.range r.size).map ModuleId.ofIndex

/-- The registry with one more entry, under the numeral of the number of entries before. -/
def push (r : Registry) (entry : Entry) : Registry := r.store (ModuleId.ofIndex r.size) entry

/-- The registry with more entries, in order. -/
def append (r : Registry) (entries : List Entry) : Registry := entries.foldl push r

/-- Nothing of `r` has been changed or removed in `r'`. -/
def Extends (r r' : Registry) : Prop := r.toList <+: r'.toList

variable {r r' : Registry}

@[simp]
theorem length_toList (r : Registry) : r.toList.length = r.size := r.entries.length_toList

theorem get?_eq_some_iff_mem {id : String} {entry : Entry} :
    r.get? id = some entry ↔ (ModuleId.mk id, entry) ∈ r.toList :=
  r.entries.get?_eq_some_iff

theorem contains_eq_isSome_get? (r : Registry) (id : String) :
    r.contains id = (r.get? id).isSome :=
  r.entries.contains_eq_isSome_get? ⟨id⟩

/-! ### Looking up in a numbered registry -/

theorem numbered_empty : Numbered ∅ := ⟨Nat.zero_le _, rfl⟩

namespace Numbered

theorem fst_of_getElem? (h : r.Numbered) {i : Nat} {p : ModuleId × Entry}
    (hp : r.toList[i]? = some p) : p.1 = ModuleId.ofIndex i := by
  have hi : i < r.size := by
    rw [← length_toList]
    exact (List.getElem?_eq_some_iff.1 hp).1
  have key := congrArg (·[i]?) h.keys
  simpa [hp, List.getElem?_range hi] using key

theorem get?_eq_some_iff (h : r.Numbered) {id : String} {entry : Entry} :
    r.get? id = some entry ↔
      ∃ i, id = (ModuleId.ofIndex i).text ∧ r.toList[i]? = some (ModuleId.ofIndex i, entry) := by
  rw [get?_eq_some_iff_mem, List.mem_iff_getElem?]
  constructor
  · rintro ⟨i, hi⟩
    have hid : ModuleId.mk id = ModuleId.ofIndex i := h.fst_of_getElem? hi
    exact ⟨i, by rw [← hid], by rw [hi, hid]⟩
  · rintro ⟨i, rfl, hi⟩
    exact ⟨i, hi⟩

theorem get?_ofIndex (h : r.Numbered) {i : Nat} {p : ModuleId × Entry}
    (hp : r.toList[i]? = some p) : r.get? (ModuleId.ofIndex i).text = some p.2 := by
  rw [h.get?_eq_some_iff]
  exact ⟨i, rfl, by rw [hp, ← h.fst_of_getElem? hp]⟩

theorem contains_iff (h : r.Numbered) {id : String} :
    r.contains id ↔ ∃ i < r.size, id = (ModuleId.ofIndex i).text := by
  rw [contains_eq_isSome_get?, Option.isSome_iff_exists]
  constructor
  · rintro ⟨entry, he⟩
    obtain ⟨i, hid, hi⟩ := h.get?_eq_some_iff.1 he
    have hlt := (List.getElem?_eq_some_iff.1 hi).1
    exact ⟨i, by rwa [length_toList] at hlt, hid⟩
  · rintro ⟨i, hi, rfl⟩
    exact ⟨_, h.get?_ofIndex (List.getElem?_eq_getElem (by rwa [length_toList]))⟩

theorem get?_next (h : r.Numbered) (hlt : r.size < ModuleId.capacity) :
    r.entries.get? (ModuleId.ofIndex r.size) = none := by
  rw [Option.eq_none_iff_forall_not_mem]
  intro entry he
  obtain ⟨i, hid, hi⟩ := h.get?_eq_some_iff.1 he
  have hi := (List.getElem?_eq_some_iff.1 hi).1
  rw [length_toList] at hi
  have := ModuleId.ofIndex_inj hlt (by omega) (congrArg ModuleId.mk hid)
  omega

end Numbered

/-! ### Growing -/

theorem Numbered.toList_push (h : r.Numbered) (hlt : r.size < ModuleId.capacity) (entry : Entry) :
    (r.push entry).toList = r.toList ++ [(ModuleId.ofIndex r.size, entry)] :=
  OrderedMap.toList_insert_of_get?_eq_none (h.get?_next hlt) entry

theorem Numbered.size_push (h : r.Numbered) (hlt : r.size < ModuleId.capacity) (entry : Entry) :
    (r.push entry).size = r.size + 1 := by
  rw [← length_toList, h.toList_push hlt]
  simp

theorem Numbered.push (h : r.Numbered) (hlt : r.size < ModuleId.capacity) (entry : Entry) :
    (r.push entry).Numbered := by
  have size := h.size_push hlt entry
  refine ⟨by omega, ?_⟩
  rw [h.toList_push hlt, size, List.range_succ]
  simp [h.keys]

theorem nextId_eq (hlt : r.size < ModuleId.capacity) :
    r.nextId = .ok (ModuleId.ofIndex r.size) := by
  rw [nextId, ModuleId.ofIndex?_eq_some hlt]

theorem nextId_eq_error (hle : ModuleId.capacity ≤ r.size) :
    r.nextId = .error .idSpaceExhausted := by
  rw [nextId, ModuleId.ofIndex?_eq_none hle]

theorem append_cons (r : Registry) (entry : Entry) (entries : List Entry) :
    r.append (entry :: entries) = (r.push entry).append entries := rfl

theorem append_append (r : Registry) (entries entries' : List Entry) :
    r.append (entries ++ entries') = (r.append entries).append entries' :=
  List.foldl_append

section Append

variable {entries : List Entry}

/-- The new entries go to the end, each under the numeral of its place. -/
theorem Numbered.toList_append (h : r.Numbered)
    (hle : r.size + entries.length ≤ ModuleId.capacity) :
    (r.append entries).toList =
      r.toList ++ (ModuleId.range r.size entries.length).zip entries := by
  induction entries generalizing r with
  | nil => simp [append]
  | cons entry entries ih =>
    rw [List.length_cons] at hle
    have hlt : r.size < ModuleId.capacity := by omega
    have size := h.size_push hlt entry
    rw [append_cons, ih (h.push hlt entry) (by omega), h.toList_push hlt, size]
    simp [ModuleId.range_succ]

theorem Numbered.size_append (h : r.Numbered)
    (hle : r.size + entries.length ≤ ModuleId.capacity) :
    (r.append entries).size = r.size + entries.length := by
  rw [← length_toList, h.toList_append hle]
  simp

theorem Numbered.getElem?_append (h : r.Numbered)
    (hle : r.size + entries.length ≤ ModuleId.capacity) {i : Nat} {entry : Entry}
    (hi : entries[i]? = some entry) :
    (r.append entries).toList[r.size + i]? = some (ModuleId.ofIndex (r.size + i), entry) := by
  have hlt : i < entries.length := (List.getElem?_eq_some_iff.1 hi).1
  rw [h.toList_append hle, List.getElem?_append_right (by simp), length_toList,
    Nat.add_sub_cancel_left, List.getElem?_zip_eq_some]
  exact ⟨by simp [ModuleId.range, hlt], hi⟩

theorem Numbered.mem_toList_append (h : r.Numbered)
    (hle : r.size + entries.length ≤ ModuleId.capacity) {p : ModuleId × Entry}
    (hp : p ∈ (r.append entries).toList) : p ∈ r.toList ∨ p.2 ∈ entries := by
  rw [h.toList_append hle, List.mem_append] at hp
  exact hp.imp_right fun hp => (List.of_mem_zip hp).2

theorem Numbered.append (h : r.Numbered)
    (hle : r.size + entries.length ≤ ModuleId.capacity) : (r.append entries).Numbered := by
  refine ⟨by rwa [h.size_append hle], ?_⟩
  rw [h.toList_append hle, h.size_append hle, List.range_add, List.map_append, h.keys,
    List.map_fst_zip (by simp), ModuleId.range, List.range'_eq_map_range]
  simp

theorem Numbered.extends_append (h : r.Numbered)
    (hle : r.size + entries.length ≤ ModuleId.capacity) : r.Extends (r.append entries) := by
  rw [Extends, h.toList_append hle]
  exact List.prefix_append _ _

end Append

/-! ### Extending -/

theorem Extends.refl (r : Registry) : r.Extends r := List.prefix_refl _

theorem Extends.trans {r'' : Registry} (h : r.Extends r') (h' : r'.Extends r'') : r.Extends r'' :=
  List.IsPrefix.trans h h'

theorem Extends.size_le (h : r.Extends r') : r.size ≤ r'.size := by
  rw [← length_toList, ← length_toList]
  exact List.IsPrefix.length_le h

theorem Extends.get? (h : r.Extends r') {id : String} {entry : Entry}
    (he : r.get? id = some entry) : r'.get? id = some entry := by
  rw [get?_eq_some_iff_mem] at he ⊢
  exact h.subset he

/-- The identifier of an added entry was not in use before. -/
theorem contains_eq_false_of_mem {new : List (ModuleId × Entry)}
    (h : r'.toList = r.toList ++ new) {p : ModuleId × Entry} (hp : p ∈ new) :
    r.contains p.1.text = false := by
  have keys : ((r.toList ++ new).map Prod.fst).Nodup := by
    rw [← h]
    exact r'.entries.nodup_keys
  rw [List.map_append, List.nodup_append] at keys
  rw [contains_eq_isSome_get?, Option.isSome_eq_false_iff, Option.isNone_iff_eq_none,
    Option.eq_none_iff_forall_not_mem]
  intro entry he
  have old : (p.1, entry) ∈ r.toList := get?_eq_some_iff_mem.1 he
  exact keys.2.2 _ (List.mem_map_of_mem old) _ (List.mem_map_of_mem hp) rfl

end Registry

end IconImports
