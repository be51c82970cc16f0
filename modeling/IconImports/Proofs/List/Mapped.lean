import Mathlib.Data.List.Forall2

/-!
# Lists mapped by a function that may fail

A list is mapped element by element (`mapM_eq_ok_iff_forall₂`), and it fails as its first element does
that cannot be mapped (`failure?_mapM`).
-/

namespace IconImports

variable {ε α β : Type}

/-! ### Lists that can be mapped -/

theorem forall₂_of_mapM_eq_ok {f : α → Except ε β} {l : List α} {l' : List β}
    (h : l.mapM f = .ok l') : List.Forall₂ (fun a b => f a = .ok b) l l' := by
  induction l generalizing l' with
  | nil =>
    obtain rfl : [] = l' := by simpa [pure, Except.pure] using h
    exact .nil
  | cons a l ih =>
    rw [List.mapM_cons] at h
    cases ha : f a with
    | error e => simp [ha, bind, Except.bind] at h
    | ok b =>
      cases hl : l.mapM f with
      | error e => simp [ha, hl, bind, Except.bind] at h
      | ok bs =>
        obtain rfl : b :: bs = l' := by simpa [ha, hl, bind, Except.bind, pure, Except.pure] using h
        exact .cons ha (ih hl)

theorem mapM_eq_ok_iff_forall₂ {f : α → Except ε β} {l : List α} {l' : List β} :
    l.mapM f = .ok l' ↔ List.Forall₂ (fun a b => f a = .ok b) l l' := by
  refine ⟨forall₂_of_mapM_eq_ok, fun h => ?_⟩
  induction h with
  | nil => rfl
  | cons ha _ ih =>
    rw [List.mapM_cons, ha, ih]
    rfl

theorem length_of_mapM_eq_ok {f : α → Except ε β} {l : List α} {l' : List β}
    (h : l.mapM f = .ok l') : l'.length = l.length :=
  (forall₂_of_mapM_eq_ok h).length_eq.symm

theorem getElem?_of_mapM_eq_ok {f : α → Except ε β} {l : List α} {l' : List β}
    (h : l.mapM f = .ok l') {i : Nat} {a : α} (hi : l[i]? = some a) :
    ∃ b, l'[i]? = some b ∧ f a = .ok b := by
  obtain ⟨hlt, rfl⟩ := List.getElem?_eq_some_iff.1 hi
  have hlt' : i < l'.length := by rwa [length_of_mapM_eq_ok h]
  exact ⟨l'[i], List.getElem?_eq_getElem hlt', (forall₂_of_mapM_eq_ok h).get hlt hlt'⟩

theorem exists_of_mem_of_mapM_eq_ok {f : α → Except ε β} {l : List α} {l' : List β}
    (h : l.mapM f = .ok l') {b : β} (hb : b ∈ l') : ∃ a ∈ l, f a = .ok b := by
  obtain ⟨i, hi, rfl⟩ := List.mem_iff_getElem.1 hb
  have hi' : i < l.length := by rwa [← length_of_mapM_eq_ok h]
  exact ⟨l[i], List.getElem_mem hi', (forall₂_of_mapM_eq_ok h).get hi' hi⟩

theorem exists_mem_of_mapM_eq_ok {f : α → Except ε β} {l : List α} {l' : List β}
    (h : l.mapM f = .ok l') {a : α} (ha : a ∈ l) : ∃ b ∈ l', f a = .ok b := by
  obtain ⟨i, hi⟩ := List.mem_iff_getElem?.1 ha
  obtain ⟨b, hb, hfb⟩ := getElem?_of_mapM_eq_ok h hi
  exact ⟨b, List.mem_of_getElem? hb, hfb⟩

theorem exists_mapM_eq_ok {f : α → Except ε β} {l : List α} (h : ∀ a ∈ l, ∃ b, f a = .ok b) :
    ∃ l', l.mapM f = .ok l' := by
  induction l with
  | nil => exact ⟨[], rfl⟩
  | cons a l ih =>
    obtain ⟨⟨b, hb⟩, others⟩ := List.forall_mem_cons.1 h
    obtain ⟨l', hl'⟩ := ih others
    refine ⟨b :: l', ?_⟩
    rw [List.mapM_cons, hb, hl']
    rfl

theorem mapM_append_eq_ok_iff {f : α → Except ε β} {l l' : List α} {r : List β} :
    (l ++ l').mapM f = .ok r ↔ ∃ x y, l.mapM f = .ok x ∧ l'.mapM f = .ok y ∧ x ++ y = r := by
  rw [List.mapM_append]
  cases l.mapM f <;> cases l'.mapM f <;> simp [bind, Except.bind, pure, Except.pure]

theorem mapM_map_eq_some {γ : Type} {write : α → β} {read : β → Option γ} {f : α → γ} {l : List α}
    (h : ∀ a ∈ l, read (write a) = some (f a)) : (l.map write).mapM read = some (l.map f) := by
  induction l with
  | nil => rfl
  | cons a l ih =>
    rw [List.forall_mem_cons] at h
    rw [List.map_cons, List.mapM_cons, h.1, ih h.2]
    rfl

/-! ### The first failure of a list -/

/-- What went wrong, if anything did. -/
def failure? : Except ε α → Option ε
  | .error e => some e
  | .ok _ => none

theorem failure?_mapM (f : α → Except ε β) (l : List α) :
    failure? (l.mapM f) = l.findSome? fun a => failure? (f a) := by
  induction l with
  | nil => rfl
  | cons a l ih =>
    rw [List.mapM_cons, List.findSome?_cons, ← ih]
    cases f a with
    | error e => rfl
    | ok b => cases l.mapM f <;> rfl

theorem eq_map_ok_or_exists_error (l : List (Except ε α)) :
    (∃ values : List α, l = values.map .ok) ∨
      ∃ (values : List α) (e : ε) (after : List (Except ε α)),
        l = values.map .ok ++ .error e :: after := by
  induction l with
  | nil => exact .inl ⟨[], rfl⟩
  | cons a l ih =>
    cases a with
    | error e => exact .inr ⟨[], e, l, rfl⟩
    | ok value =>
      rcases ih with ⟨values, rfl⟩ | ⟨values, e, after, rfl⟩
      · exact .inl ⟨value :: values, rfl⟩
      · exact .inr ⟨value :: values, e, after, rfl⟩

theorem mapM_append_cons_eq_error {f : α → Except ε β} {before after : List α} {a : α} {e : ε}
    (h : ∀ b ∈ before, ∃ c, f b = .ok c) (ha : f a = .error e) :
    (before ++ a :: after).mapM f = .error e := by
  obtain ⟨mapped, hmapped⟩ := exists_mapM_eq_ok h
  rw [List.mapM_append, hmapped, List.mapM_cons, ha]
  rfl

end IconImports
