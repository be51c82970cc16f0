import IconImports.Proofs.Registry.Run

/-!
# The room of a registry

The room of a registry is looked at in two places: `ensureCapacity` measures it for many entries at
once, and `register` for one entry at a time. Entries are registered as long as there is room for the
next one, and from then on every call fails and changes nothing (`registerAll_eq`,
`run_register_of_le`). So both places agree.

The main statement: `run_meetsCapacity`.
-/

namespace IconImports

namespace Registry

/-- What registering entries one after the other answers. After a call that fails, the next one is
made all the same. -/
def registerAll (r : Registry) : List Entry → List (Except RedirectError ModuleId)
  | [] => []
  | entry :: entries =>
    (r.register entry).map Prod.fst :: (r.after (.register entry)).registerAll entries

variable {r : Registry}

/-! ### Measuring at once -/

theorem ensureCapacity_eq_ok_iff {count : Nat} :
    r.ensureCapacity count = .ok () ↔ r.size + count ≤ ModuleId.capacity := by
  unfold ensureCapacity
  split
  next hlt => exact ⟨nofun, fun hle => absurd hlt (by omega)⟩
  next hle => exact ⟨fun _ => by omega, fun _ => rfl⟩

theorem ensureCapacity_eq_error {count : Nat} {e : RedirectError}
    (h : r.ensureCapacity count = .error e) : e = .idSpaceExhausted := by
  unfold ensureCapacity at h
  split at h
  · exact (Except.error.inj h).symm
  · cases h

/-! ### Entry by entry -/

theorem after_register_of_le (h : r.Numbered) (hle : ModuleId.capacity ≤ r.size) (entry : Entry) :
    r.after (.register entry) = r := by
  obtain ⟨hlt, -⟩ | ⟨-, hreg⟩ := register_cases h entry
  · omega
  · rw [after, hreg]

/-- While there is room, a call takes up the room of one entry. -/
theorem size_after_register (h : r.Numbered) (entry : Entry) :
    (r.after (.register entry)).size = min (r.size + 1) ModuleId.capacity := by
  obtain ⟨hlt, hreg⟩ | ⟨hfull, -⟩ := register_cases h entry
  · have pushed : r.after (.register entry) = r.push entry := by rw [after, hreg]
    rw [pushed, h.size_push hlt]
    omega
  · rw [after_register_of_le h (Nat.le_of_eq hfull.symm)]
    omega

theorem size_run_register (h : r.Numbered) (entries : List Entry) :
    (r.run (entries.map .register)).size = min (r.size + entries.length) ModuleId.capacity := by
  induction entries generalizing r with
  | nil =>
    have := h.size_le
    show r.size = min (r.size + 0) _
    omega
  | cons entry entries ih =>
    have rest := ih (numbered_after h (.register entry))
    rw [size_after_register h] at rest
    show ((r.after (.register entry)).run _).size = _
    rw [rest, List.length_cons]
    omega

/-- The calls for which there is room are answered by the next identifiers, and all later calls by
an error. -/
theorem registerAll_eq (h : r.Numbered) (entries : List Entry) :
    r.registerAll entries =
      (ModuleId.range r.size (min entries.length (ModuleId.capacity - r.size))).map .ok ++
        List.replicate (entries.length - (ModuleId.capacity - r.size))
          (.error .idSpaceExhausted) := by
  induction entries generalizing r with
  | nil => simp [registerAll, ModuleId.range]
  | cons entry entries ih =>
    have rest := ih (numbered_after h (.register entry))
    unfold registerAll
    rw [rest, size_after_register h]
    obtain ⟨hlt, hreg⟩ | ⟨hfull, hreg⟩ := register_cases h entry
    · have taken : min (r.size + 1) ModuleId.capacity = r.size + 1 := by omega
      have first : min (entry :: entries).length (ModuleId.capacity - r.size) =
          min entries.length (ModuleId.capacity - (r.size + 1)) + 1 := by
        rw [List.length_cons]
        omega
      have others : (entry :: entries).length - (ModuleId.capacity - r.size) =
          entries.length - (ModuleId.capacity - (r.size + 1)) := by
        rw [List.length_cons]
        omega
      rw [hreg, taken, first, others, ModuleId.range_succ]
      rfl
    · have full : min (r.size + 1) ModuleId.capacity = ModuleId.capacity := by omega
      rw [hreg, full, hfull]
      simp [ModuleId.range, Except.map, List.replicate_succ]

theorem run_register_of_le (h : r.Numbered) (hle : ModuleId.capacity ≤ r.size)
    (entries : List Entry) : r.run (entries.map .register) = r := by
  induction entries with
  | nil => rfl
  | cons entry entries ih =>
    show (r.after (.register entry)).run _ = r
    rwa [after_register_of_le h hle]

/-! ### Both together -/

/-- What is measured at once is what can be used up entry by entry. -/
structure MeetsCapacity (r : Registry) : Prop where
  measured : ∀ count, r.ensureCapacity count = .ok () ↔ r.size + count ≤ 36 ^ 4
  /-- There is room for entries if each of them can be registered after those before it. -/
  registered : ∀ entries, r.ensureCapacity entries.length = .ok () ↔
    ∀ answer ∈ r.registerAll entries, ∃ id, answer = .ok id
  /-- Where room is refused, as many calls succeed as there are identifiers left, and all others
  fail in the same way. -/
  refused : ∀ count e, r.ensureCapacity count = .error e → ∀ entries : List Entry,
    ∃ ids : List ModuleId, ids.length = min entries.length (36 ^ 4 - r.size) ∧
      r.registerAll entries =
        ids.map .ok ++ List.replicate (entries.length - (36 ^ 4 - r.size)) (.error e)
  /-- Once the room is used up, nothing changes any more. -/
  unchanged : ∀ entries : List Entry, 36 ^ 4 - r.size ≤ entries.length → ∀ more,
    r.run ((entries ++ more).map .register) = r.run (entries.map .register)

/-- In every run of a new registry, room is refused exactly if it would not suffice. -/
theorem run_meetsCapacity (calls : List Call) : MeetsCapacity (run ∅ calls) := by
  have h := numbered_run numbered_empty calls
  generalize run ∅ calls = r at h
  constructor
  case measured =>
    intro count
    exact ensureCapacity_eq_ok_iff
  case registered =>
    intro entries
    have hsize := h.size_le
    rw [ensureCapacity_eq_ok_iff, registerAll_eq h]
    constructor
    · intro hle answer hanswer
      have enough : entries.length - (ModuleId.capacity - r.size) = 0 := by omega
      rw [enough, List.replicate_zero, List.append_nil] at hanswer
      obtain ⟨id, -, rfl⟩ := List.mem_map.1 hanswer
      exact ⟨id, rfl⟩
    · intro all
      by_contra hgt
      have short : entries.length - (ModuleId.capacity - r.size) ≠ 0 := by omega
      obtain ⟨id, hid⟩ := all (.error .idSpaceExhausted)
        (List.mem_append_right _ (List.mem_replicate.2 ⟨short, rfl⟩))
      cases hid
  case refused =>
    intro count e he entries
    obtain rfl := ensureCapacity_eq_error he
    exact ⟨_, ModuleId.length_range .., registerAll_eq h entries⟩
  case unchanged =>
    intro entries hle more
    have used : ModuleId.capacity ≤ (r.run (entries.map .register)).size := by
      have room : ModuleId.capacity - r.size ≤ entries.length := hle
      rw [size_run_register h]
      omega
    rw [List.map_append, run, List.foldl_append]
    exact run_register_of_le (numbered_run h _) used more

end Registry

end IconImports
