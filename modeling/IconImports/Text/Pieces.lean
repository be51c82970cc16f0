/-!
# Texts cut at a separator

`pieces sep s` are the stretches of `s` between the occurrences of `sep`. There is always at least
one, and writing the separator between them gives back the text (`intercalate_pieces`). What holds of
texts and of a separator, and goes over to texts one after the other, holds of the joined texts
(`intercalate_of_forall`).
-/

namespace IconImports

/-- The stretches of a text between the separators; a text without separators is one piece. -/
def pieces (sep : Char) : List Char → List (List Char)
  | [] => [[]]
  | c :: s =>
    if c = sep then [] :: pieces sep s
    else
      match pieces sep s with
      | [] => [[c]]
      | piece :: rest => (c :: piece) :: rest

theorem pieces_ne_nil (sep : Char) (s : List Char) : pieces sep s ≠ [] := by
  fun_cases pieces sep s <;> simp

theorem pieces_of_not_mem {sep : Char} {s : List Char} (h : sep ∉ s) : pieces sep s = [s] := by
  induction s with
  | nil => rfl
  | cons c s ih =>
    rw [List.mem_cons, not_or] at h
    rw [pieces, if_neg (Ne.symm h.1), ih h.2]

theorem pieces_append_sep (sep : Char) (s t : List Char) :
    pieces sep (s ++ sep :: t) = pieces sep s ++ pieces sep t := by
  induction s with
  | nil => simp [pieces]
  | cons c s ih =>
    rw [List.cons_append, pieces, pieces, ih]
    by_cases h : c = sep
    · rw [if_pos h, if_pos h, List.cons_append]
    · obtain ⟨piece, rest, hs⟩ := List.exists_cons_of_ne_nil (pieces_ne_nil sep s)
      rw [if_neg h, if_neg h, hs]
      rfl

theorem pieces_append_cons {sep : Char} {s : List Char} (h : sep ∉ s) (t : List Char) :
    pieces sep (s ++ sep :: t) = s :: pieces sep t := by
  rw [pieces_append_sep, pieces_of_not_mem h, List.singleton_append]

theorem intercalate_pieces (sep : Char) (s : List Char) : [sep].intercalate (pieces sep s) = s := by
  fun_induction pieces sep s with
  | case1 => rfl
  | case2 s ih =>
    obtain ⟨piece, rest, h⟩ := List.exists_cons_of_ne_nil (pieces_ne_nil sep s)
    rw [h] at ih ⊢
    simp [← ih]
  | case3 c s _ h => exact absurd h (pieces_ne_nil sep s)
  | case4 c s _ piece rest h ih =>
    rw [h] at ih
    rw [← ih]
    cases rest <;> simp

theorem intercalate_of_forall {P : List Char → Prop} {sep : List Char} {texts : List (List Char)}
    (nil : P []) (append : ∀ s t, P s → P t → P (s ++ t)) (hsep : P sep)
    (h : ∀ text ∈ texts, P text) : P (sep.intercalate texts) := by
  induction texts with
  | nil => exact nil
  | cons text texts ih =>
    rw [List.forall_mem_cons] at h
    cases texts with
    | nil =>
      rw [List.intercalate_singleton]
      exact h.1
    | cons next texts =>
      rw [List.intercalate_cons_cons]
      exact append _ _ (append _ _ h.1 hsep) (ih h.2)

end IconImports
