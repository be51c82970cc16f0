import IconImports.Proofs.Scan.Read
import IconImports.Segments

/-!
# How a text is cut

`Segments.Cuts` says which pieces a text is cut into, one statement after the other: each stands
behind a text in which no statement is read (`Statement.NoneIn`), and after the last one no other is
read. What follows counts, since it may complete a statement that opens before it. Every text is cut
in this way (`cuts_ofText`), so a fact about the pieces of a text goes by induction over the cuts.
-/

namespace IconImports

/-- No statement is read at a place in `a`, where `s` follows. -/
def Statement.NoneIn (a s : List Char) : Prop := ∀ u v, a = u ++ v → v ≠ [] → read? (v ++ s) = none

namespace Segments

open Statement

/-- The pieces into which a text is cut. -/
inductive Cuts : List Char → Segments → Prop
  | tail {s : List Char} (none : NoneIn s []) : Cuts s ⟨[], s⟩
  | statement {before rest : List Char} {st : Statement} {segments : Segments}
    (none : NoneIn before (st.text ++ rest)) (read : read? (st.text ++ rest) = some (st, rest))
    (others : Cuts rest segments) :
    Cuts (before ++ (st.text ++ rest)) ⟨(before, st) :: segments.statements, segments.tail⟩

end Segments

/-! ### Texts in which no statement is read -/

namespace Statement

variable {a b s : List Char}

theorem noneIn_nil (s : List Char) : NoneIn [] s := by
  intro u v h hne
  exact absurd (List.nil_eq_append_iff.1 h).2 hne

theorem noneIn_cons_iff {c : Char} :
    NoneIn (c :: a) s ↔ read? (c :: (a ++ s)) = none ∧ NoneIn a s := by
  constructor
  · intro h
    refine ⟨h [] (c :: a) rfl (List.cons_ne_nil _ _), fun u v e hne => ?_⟩
    exact h (c :: u) v (by rw [e, List.cons_append]) hne
  · rintro ⟨first, others⟩ u v e hne
    obtain ⟨rfl, rfl⟩ | ⟨u, rfl, rfl⟩ := List.cons_eq_append_iff.1 e
    · exact first
    · exact others u v rfl hne

theorem NoneIn.append (h : NoneIn a (b ++ s)) (h' : NoneIn b s) : NoneIn (a ++ b) s := by
  induction a with
  | nil => exact h'
  | cons c a ih =>
    rw [noneIn_cons_iff] at h
    rw [List.cons_append, noneIn_cons_iff, List.append_assoc]
    exact ⟨h.1, ih h.2⟩

/-- In front of a statement no other one is read, whatever word then stands in the place of the
package. -/
theorem NoneIn.textWith {st : Statement} {before rest : List Char}
    (h : NoneIn before (st.text ++ rest)) (hst : st.WellFormed) (token rest' : List Char) :
    NoneIn before (st.textWith token ++ rest') := by
  intro u v hv hne
  rw [Option.eq_none_iff_forall_not_mem]
  rintro ⟨st', r⟩ hread
  obtain ⟨hst', e⟩ := wellFormed_and_eq_of_read? hread
  by_cases hlt : v.length < st'.text.length
  · -- The other statement would go on into `st`, which opens as it did.
    rw [textWith_eq, List.append_assoc] at e
    exact ne_opening_append_of_within hst' hst not_mem_packageWord e.symm hne hlt rfl
  · have inFront : st'.text <+: v :=
      List.prefix_of_prefix_length_le (List.prefix_append _ r) (e ▸ List.prefix_append v _)
        (Nat.not_lt.1 hlt)
    obtain ⟨w, rfl⟩ := inFront
    have source := h u _ hv hne
    rw [List.append_assoc, read?_text_append_eq hst'] at source
    cases source

end Statement

/-! ### Cutting -/

namespace Segments

open Statement

variable {a s rest : List Char} {st : Statement}

theorem cut_of_read?_eq_some (h : read? s = some (st, rest)) (before : List Char) :
    cut before s = ⟨(before.reverse, st) :: (cut [] rest).statements, (cut [] rest).tail⟩ := by
  rw [cut]
  split
  next h' =>
    rw [h] at h'
    cases h'
    rfl
  next h' =>
    rw [h] at h'
    cases h'

theorem cut_cons_of_read?_eq_none {c : Char} (h : read? (c :: s) = none) (before : List Char) :
    cut before (c :: s) = cut (c :: before) s := by
  rw [cut]
  split
  next h' =>
    rw [h] at h'
    cases h'
  · rfl

theorem cut_nil (before : List Char) : cut before [] = ⟨[], before.reverse⟩ := by
  rw [cut]
  split
  next h => cases h
  · rfl

/-- Where no statement is read, cutting goes on behind. -/
theorem cut_append (h : NoneIn a s) (before : List Char) :
    cut before (a ++ s) = cut (a.reverse ++ before) s := by
  induction a generalizing before with
  | nil => rfl
  | cons c a ih =>
    rw [noneIn_cons_iff] at h
    rw [List.cons_append, cut_cons_of_read?_eq_none h.1, ih h.2, List.reverse_cons,
      List.append_assoc, List.singleton_append]

theorem cuts_cut {before s : List Char} (h : NoneIn before.reverse s) :
    Cuts (before.reverse ++ s) (cut before s) := by
  fun_induction cut before s with
  | case1 before s st rest hread segments ih =>
    obtain ⟨-, rfl⟩ := wellFormed_and_eq_of_read? hread
    exact .statement h hread (ih (noneIn_nil rest))
  | case2 before hread =>
    rw [List.append_nil]
    exact .tail h
  | case3 before c s hread ih =>
    have passed : NoneIn (c :: before).reverse s := by
      rw [List.reverse_cons]
      exact NoneIn.append h (noneIn_cons_iff.2 ⟨hread, noneIn_nil s⟩)
    simpa using ih passed

theorem Cuts.text_eq {s : List Char} {segments : Segments} (h : Cuts s segments) :
    segments.text = s := by
  induction h with
  | tail none => rfl
  | statement none read others ih =>
    rw [text_cons, ih]
    simp [Statement.text, Statement.textWith]

theorem cuts_ofText (s : List Char) : Cuts s (ofText s) := @cuts_cut [] s (noneIn_nil s)

end Segments

end IconImports
