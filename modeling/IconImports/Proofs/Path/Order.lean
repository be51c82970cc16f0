import IconImports.Path
import Mathlib.Data.List.Sort

/-!
# The order of paths

Paths are compared part by part (`precedes_iff`), and their spelling does not matter: of two paths
either one precedes the other or they count as equal, and not both (`le_iff`, `le_total`,
`Precedes.same_eq_false`). The first part in which two paths differ decides, so what lies in a
directory precedes what only has a longer name.
-/

namespace IconImports

namespace Path

/-- The first part in which the paths differ is the lower one in `a`, or `a` ends where `b` goes
on. -/
def Precedes (a b : Path) : Prop := List.Lex (fun p q => compare p q = .lt) a.parts b.parts

/-! ### Parts -/

instance : Std.TransOrd Part :=
  inferInstanceAs (Std.TransCmp (compareLex (compareOn Part.rank) (compareOn Part.text)))

instance : Std.LawfulEqOrd Part where
  eq_of_compare {a b} h := by
    obtain ⟨hrank, htext⟩ := Ordering.then_eq_eq.1 h
    have rank : a.rank = b.rank := Std.LawfulEqOrd.eq_of_compare hrank
    have text : a.text = b.text := Std.LawfulEqOrd.eq_of_compare htext
    cases a <;> cases b <;> simp_all [Part.rank, Part.text]

theorem lex_iff_compare_eq_lt {l l' : List Part} :
    List.Lex (fun p q => compare p q = .lt) l l' ↔ compare l l' = .lt := by
  induction l generalizing l' with
  | nil => cases l' <;> simp
  | cons p l ih =>
    cases l' with
    | nil => simp
    | cons q l' =>
      rw [List.cons_lex_cons_iff, List.compare_cons_cons, Ordering.then_eq_lt,
        Std.LawfulEqOrd.compare_eq_iff_eq, ih]

/-! ### Paths -/

variable {a b c : Path}

theorem same_iff : a.same b = true ↔ a.parts = b.parts := decide_eq_true_iff

theorem same_refl (a : Path) : a.same a = true := same_iff.2 rfl

theorem same_comm (a b : Path) : a.same b = b.same a := decide_eq_decide.2 eq_comm

theorem same_congr (h : a.same b = true) (c : Path) : c.same a = c.same b := by
  unfold same
  rw [same_iff.1 h]

theorem precedes_iff : a.Precedes b ↔ compare a.parts b.parts = .lt := lex_iff_compare_eq_lt

instance (a b : Path) : Decidable (a.Precedes b) := decidable_of_iff _ precedes_iff.symm

theorem Precedes.same_eq_false (h : a.Precedes b) : a.same b = false := by
  rw [← Bool.not_eq_true, same_iff]
  intro parts
  rw [precedes_iff, parts, Std.ReflOrd.compare_self] at h
  cases h

theorem le_iff : a.le b = true ↔ a.Precedes b ∨ a.same b = true := by
  rw [le, Ordering.isLE_iff_eq_lt_or_eq_eq, precedes_iff, same_iff,
    Std.LawfulEqOrd.compare_eq_iff_eq]

theorem le_trans (a b c : Path) (h : a.le b = true) (h' : b.le c = true) : a.le c = true :=
  Std.TransOrd.isLE_trans h h'

theorem le_total (a b : Path) : (a.le b || b.le a) = true := by
  unfold le
  rw [Std.OrientedOrd.eq_swap (a := b.parts)]
  cases compare a.parts b.parts <;> rfl

theorem le_of_same (h : a.same b = true) : a.le b = true := le_iff.2 (.inr h)

theorem Precedes.trans_le (h : a.Precedes b) (h' : b.le c = true) : a.Precedes c := by
  rw [precedes_iff] at h ⊢
  exact Std.TransCmp.lt_of_lt_of_isLE h h'

theorem map_parts_eq_of_pairwise {l l' : List Path} (h : l.Pairwise Precedes)
    (h' : l'.Pairwise Precedes)
    (same : ∀ path, (∃ a ∈ l, a.same path = true) ↔ ∃ a ∈ l', a.same path = true) :
    l.map parts = l'.map parts := by
  let below (p q : List Part) : Prop := compare p q = .lt
  have irrefl : Std.Irrefl below := by
    refine ⟨fun p hp => ?_⟩
    have self : compare p p = .eq := Std.ReflOrd.compare_self
    cases self.symm.trans hp
  have antisymm : Std.Antisymm below :=
    ⟨fun p q hpq hqp => absurd hqp (Std.OrientedCmp.not_lt_of_lt hpq)⟩
  have sorted : (l.map parts).Pairwise below := List.pairwise_map.2 (h.imp precedes_iff.1)
  have sorted' : (l'.map parts).Pairwise below := List.pairwise_map.2 (h'.imp precedes_iff.1)
  apply sorted.eq_of_mem_iff sorted'
  intro p
  simp only [same_iff] at same
  rw [List.mem_map, List.mem_map]
  constructor
  · rintro ⟨a, ha, rfl⟩
    exact (same a).1 ⟨a, ha, rfl⟩
  · rintro ⟨a, ha, rfl⟩
    exact (same a).2 ⟨a, ha, rfl⟩

example : Precedes ⟨"a/b"⟩ ⟨"a.js"⟩ := by decide +kernel

end Path

end IconImports
