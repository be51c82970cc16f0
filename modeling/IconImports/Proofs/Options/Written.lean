import IconImports.Options
import IconImports.Proofs.Json.Strings
import Mathlib.Data.List.DropRight

/-!
# How options are written

A text that holds options is made of their tokens (`Options.Written`), with white space around them if
there is any (`Spaced`). Every reader takes tokens off the start of a text and leaves the rest, and
which tokens it takes is said by one lemma for each, from `readBoolean_eq_ok_iff` to
`readValue_eq_ok_iff`. A whole text is accepted exactly if it is written in this way
(`ofJson_eq_ok_iff`).
-/

namespace IconImports

open Json

/-- The characters that may stand around tokens. -/
def whiteSpace : List Char := [' ', '\t', '\n', '\r']

/-- The tokens stand at the start of a text, each behind white space if there is any, and are followed
by the rest. -/
inductive Spaced : List (List Char) → List Char → List Char → Prop
  | nil {s : List Char} : Spaced [] s s
  | cons {space token s rest : List Char} {tokens : List (List Char)}
    (hspace : ∀ c ∈ space, c ∈ whiteSpace) (others : Spaced tokens s rest) :
    Spaced (token :: tokens) (space ++ (token ++ s)) rest

section Spaced

variable {tokens : List (List Char)} {token s rest : List Char} {c : Char}

theorem isSpace_iff : isSpace c = true ↔ c ∈ whiteSpace := by
  simp [isSpace, whiteSpace, or_assoc]

theorem skipSpace_skipSpace (s : List Char) : skipSpace (skipSpace s) = skipSpace s :=
  List.dropWhile_idempotent ..

theorem skipSpace_eq_nil_iff : skipSpace s = [] ↔ ∀ c ∈ s, c ∈ whiteSpace := by
  simp only [skipSpace, List.dropWhile_eq_nil_iff, isSpace_iff]

theorem spaced_nil_iff : Spaced [] s rest ↔ s = rest := by
  constructor
  · rintro ⟨⟩
    rfl
  · rintro rfl
    exact .nil

theorem spaced_cons_iff (h : isSpace c = false) :
    Spaced ((c :: token) :: tokens) s rest ↔
      ∃ t, skipSpace s = c :: (token ++ t) ∧ Spaced tokens t rest := by
  constructor
  · rintro (_ | ⟨hspace, others⟩)
    refine ⟨_, ?_, others⟩
    rw [skipSpace, List.dropWhile_append_of_pos fun c hc => isSpace_iff.2 (hspace c hc)]
    exact List.dropWhile_cons_of_neg (by rw [h]; exact Bool.false_ne_true)
  · rintro ⟨t, hs, others⟩
    have split : s = s.takeWhile isSpace ++ (c :: token ++ t) := by
      rw [List.cons_append, ← hs]
      exact List.takeWhile_append_dropWhile.symm
    rw [split]
    exact .cons (fun c hc => isSpace_iff.1 (List.all_eq_true.1 List.all_takeWhile c hc)) others

theorem spaced_singleton_iff (h : isSpace c = false) :
    Spaced [[c]] s rest ↔ skipSpace s = c :: rest := by
  simp [spaced_cons_iff h, spaced_nil_iff]

theorem spaced_booleanWord_iff {b : Bool} :
    Spaced (booleanWord b :: tokens) s rest ↔
      ∃ t, skipSpace s = booleanWord b ++ t ∧ Spaced tokens t rest := by
  cases b with
  | true => exact spaced_cons_iff rfl
  | false => exact spaced_cons_iff rfl

theorem Spaced.append (h : Spaced tokens s rest) (t : List Char) :
    Spaced tokens (s ++ t) (rest ++ t) := by
  induction h with
  | nil => exact .nil
  | cons hspace others ih =>
    rw [List.append_assoc, List.append_assoc]
    exact .cons hspace ih

theorem Spaced.mem (h : Spaced tokens s rest) (hc : c ∉ whiteSpace) (hmem : c ∈ s) :
    (∃ token ∈ tokens, c ∈ token) ∨ c ∈ rest := by
  induction h with
  | nil => exact .inr hmem
  | @cons space token s rest tokens hspace others ih =>
    rw [List.mem_append, List.mem_append] at hmem
    rcases hmem with hmem | hmem | hmem
    · exact absurd (hspace c hmem) hc
    · exact .inl ⟨token, List.mem_cons_self, hmem⟩
    · refine (ih hmem).imp_left ?_
      rintro ⟨token', htoken', hmem⟩
      exact ⟨token', List.mem_cons_of_mem _ htoken', hmem⟩

end Spaced

namespace Options

variable {s rest : List Char} {options : Options} {tokens : List (List Char)}

/-- The tokens of a text that holds the options. -/
inductive Written : Options → List (List Char) → Prop
  | emptyObject : Written ⟨true⟩ [['\x7b'], ['\x7d']]
  | object {key : List Char} {enabled : Bool} (hkey : Spells key "enabled".toList) :
    Written ⟨enabled⟩ [['\x7b'], '"' :: (key ++ ['"']), [':'], booleanWord enabled, ['\x7d']]
  | emptyArray : Written ⟨true⟩ [['['], [']']]
  | array {enabled : Bool} : Written ⟨enabled⟩ [['['], booleanWord enabled, [']']]

theorem Written.exists_eq_cons (h : Written options tokens) :
    ∃ others, tokens = ['\x7b'] :: others ∨ tokens = ['['] :: others := by
  cases h with
  | emptyObject | object => exact ⟨_, .inl rfl⟩
  | emptyArray | array => exact ⟨_, .inr rfl⟩

theorem spaced_member_iff {key : List Char} {enabled : Bool} :
    Spaced ['"' :: (key ++ ['"']), [':'], booleanWord enabled, ['\x7d']] s rest ↔
      ∃ t u v, skipSpace s = '"' :: (key ++ '"' :: t) ∧ skipSpace t = ':' :: u ∧
        skipSpace u = booleanWord enabled ++ v ∧ skipSpace v = '\x7d' :: rest := by
  have quote : isSpace '"' = false := rfl
  have colon : isSpace ':' = false := rfl
  have brace : isSpace '\x7d' = false := rfl
  simp only [spaced_cons_iff quote, spaced_cons_iff colon, spaced_booleanWord_iff,
    spaced_singleton_iff brace, List.append_assoc, List.singleton_append, List.nil_append,
    exists_and_left]

theorem spaced_element_iff {enabled : Bool} :
    Spaced [booleanWord enabled, [']']] s rest ↔
      ∃ t, skipSpace s = booleanWord enabled ++ t ∧ skipSpace t = ']' :: rest := by
  have bracket : isSpace ']' = false := rfl
  simp only [spaced_booleanWord_iff, spaced_singleton_iff bracket]

/-! ### What the readers take -/

theorem readWord_eq_ok_iff {w : List Char} : readWord w s = .ok rest ↔ s = w ++ rest := by
  induction w generalizing s with
  | nil =>
    rw [readWord, Except.ok.injEq]
    rfl
  | cons c w ih =>
    cases s with
    | nil => exact ⟨nofun, nofun⟩
    | cons d s =>
      unfold readWord
      by_cases h : c = d
      · rw [if_pos h, ih, h, List.cons_append, List.cons.injEq]
        exact (and_iff_right rfl).symm
      · rw [if_neg h]
        exact ⟨nofun, fun heq => absurd (List.cons.inj heq).1.symm h⟩

theorem readBoolean_eq_ok_iff {b : Bool} :
    readBoolean s = .ok (b, rest) ↔ skipSpace s = booleanWord b ++ rest := by
  constructor
  · intro h
    unfold readBoolean at h
    split at h
    · cases h
    next t hs =>
      obtain ⟨u, hword, ⟨⟩⟩ := bind_eq_ok_iff.1 h
      rw [hs, readWord_eq_ok_iff.1 hword]
      rfl
    next t hs =>
      obtain ⟨u, hword, ⟨⟩⟩ := bind_eq_ok_iff.1 h
      rw [hs, readWord_eq_ok_iff.1 hword]
      rfl
    · obtain ⟨found, -, ⟨⟩⟩ := bind_eq_ok_iff.1 h
  · intro h
    unfold readBoolean
    rw [h]
    cases b with
    | true => exact bind_eq_ok_iff.2 ⟨rest, readWord_eq_ok_iff.2 rfl, rfl⟩
    | false => exact bind_eq_ok_iff.2 ⟨rest, readWord_eq_ok_iff.2 rfl, rfl⟩

theorem readAfterField_eq_ok_iff {enabled : Bool} :
    readAfterField enabled s = .ok (options, rest) ↔
      options = ⟨enabled⟩ ∧ skipSpace s = '\x7d' :: rest := by
  constructor
  · intro h
    unfold readAfterField at h
    split at h
    · cases h
    next t hs =>
      cases h
      exact ⟨rfl, hs⟩
    · split at h
      · cases h
      · obtain ⟨key, -, ⟨⟩⟩ := bind_eq_ok_iff.1 h
      · cases h
      · cases h
    · cases h
  · rintro ⟨rfl, hs⟩
    rw [readAfterField, hs]
    rfl

theorem readAfterElement_eq_ok_iff {enabled : Bool} :
    readAfterElement enabled s = .ok (options, rest) ↔
      options = ⟨enabled⟩ ∧ skipSpace s = ']' :: rest := by
  constructor
  · intro h
    unfold readAfterElement at h
    split at h
    · cases h
    next t hs =>
      cases h
      exact ⟨rfl, hs⟩
    · split at h
      · cases h
      · cases h
    · cases h
  · rintro ⟨rfl, hs⟩
    rw [readAfterElement, hs]
    rfl

theorem readObject_eq_ok_iff :
    readObject s = .ok (options, rest) ↔
      ∃ tokens, Written options (['\x7b'] :: tokens) ∧ Spaced tokens s rest := by
  constructor
  · intro h
    unfold readObject at h
    split at h
    · cases h
    next t hs =>
      cases h
      exact ⟨_, .emptyObject, (spaced_singleton_iff rfl).2 hs⟩
    next t hs =>
      obtain ⟨⟨key, u⟩, hread, h⟩ := bind_eq_ok_iff.1 h
      dsimp only at h
      split at h
      next hkey =>
        split at h
        · cases h
        next v hu =>
          obtain ⟨⟨enabled, w⟩, hboolean, hend⟩ := bind_eq_ok_iff.1 h
          obtain ⟨rfl, hw⟩ := readAfterField_eq_ok_iff.1 hend
          obtain ⟨body, rfl, spells⟩ := readString_nil_eq_ok_iff.1 hread
          rw [hkey] at spells
          have member := spaced_member_iff.2
            ⟨_, _, _, hs, hu, readBoolean_eq_ok_iff.1 hboolean, hw⟩
          exact ⟨_, .object spells, member⟩
        · cases h
      · cases h
    · cases h
  · rintro ⟨tokens, written, spaced⟩
    cases written with
    | emptyObject =>
      rw [readObject, (spaced_singleton_iff rfl).1 spaced]
      rfl
    | @object key enabled hkey =>
      obtain ⟨t, u, v, hs, ht, hu, hv⟩ := spaced_member_iff.1 spaced
      have hread : readString [] (key ++ '"' :: t) = .ok (fieldName, t) :=
        readString_nil_eq_ok_iff.2 ⟨key, rfl, hkey⟩
      rw [readObject, hs]
      apply bind_eq_ok_iff.2
      refine ⟨_, hread, ?_⟩
      dsimp only
      rw [if_pos rfl, ht]
      apply bind_eq_ok_iff.2
      exact ⟨_, readBoolean_eq_ok_iff.2 hu, readAfterField_eq_ok_iff.2 ⟨rfl, hv⟩⟩

theorem readArray_eq_ok_iff :
    readArray s = .ok (options, rest) ↔
      ∃ tokens, Written options (['['] :: tokens) ∧ Spaced tokens s rest := by
  constructor
  · intro h
    unfold readArray at h
    split at h
    · cases h
    next t hs =>
      cases h
      exact ⟨_, .emptyArray, (spaced_singleton_iff rfl).2 hs⟩
    next =>
      obtain ⟨⟨enabled, t⟩, hboolean, hend⟩ := bind_eq_ok_iff.1 h
      obtain ⟨rfl, ht⟩ := readAfterElement_eq_ok_iff.1 hend
      have hs := readBoolean_eq_ok_iff.1 hboolean
      rw [skipSpace_skipSpace] at hs
      exact ⟨_, .array, spaced_element_iff.2 ⟨t, hs, ht⟩⟩
  · rintro ⟨tokens, written, spaced⟩
    cases written with
    | emptyArray =>
      rw [readArray, (spaced_singleton_iff rfl).1 spaced]
      rfl
    | @array enabled =>
      obtain ⟨t, hs, ht⟩ := spaced_element_iff.1 spaced
      have element : readBoolean (skipSpace s) = .ok (enabled, t) :=
        readBoolean_eq_ok_iff.2 (by rw [skipSpace_skipSpace, hs])
      have close : readAfterElement enabled t = .ok (⟨enabled⟩, rest) :=
        readAfterElement_eq_ok_iff.2 ⟨rfl, ht⟩
      rw [hs] at element
      rw [readArray, hs]
      cases enabled with
      | true => exact bind_eq_ok_iff.2 ⟨_, element, close⟩
      | false => exact bind_eq_ok_iff.2 ⟨_, element, close⟩

theorem readValue_eq_ok_iff :
    readValue s = .ok (options, rest) ↔ ∃ tokens, Written options tokens ∧ Spaced tokens s rest := by
  constructor
  · intro h
    unfold readValue at h
    split at h
    · cases h
    next t hs =>
      obtain ⟨tokens, written, spaced⟩ := readObject_eq_ok_iff.1 h
      exact ⟨_, written, (spaced_cons_iff rfl).2 ⟨t, hs, spaced⟩⟩
    next t hs =>
      obtain ⟨tokens, written, spaced⟩ := readArray_eq_ok_iff.1 h
      exact ⟨_, written, (spaced_cons_iff rfl).2 ⟨t, hs, spaced⟩⟩
    · obtain ⟨found, -, ⟨⟩⟩ := bind_eq_ok_iff.1 h
  · rintro ⟨tokens, written, spaced⟩
    unfold readValue
    obtain ⟨others, rfl | rfl⟩ := written.exists_eq_cons
    · obtain ⟨t, hs, spaced⟩ := (spaced_cons_iff rfl).1 spaced
      rw [hs]
      exact readObject_eq_ok_iff.2 ⟨others, written, spaced⟩
    · obtain ⟨t, hs, spaced⟩ := (spaced_cons_iff rfl).1 spaced
      rw [hs]
      exact readArray_eq_ok_iff.2 ⟨others, written, spaced⟩

theorem readText_eq_ok_iff :
    readText s = .ok options ↔ ∃ rest, readValue s = .ok (options, rest) ∧ skipSpace rest = [] := by
  constructor
  · intro h
    obtain ⟨⟨options', rest⟩, hread, h⟩ := bind_eq_ok_iff.1 h
    dsimp only at h
    split at h
    next hrest =>
      cases h
      exact ⟨rest, hread, hrest⟩
    · cases h
  · rintro ⟨rest, hread, hrest⟩
    apply bind_eq_ok_iff.2
    refine ⟨_, hread, ?_⟩
    dsimp only
    rw [hrest]
    rfl

theorem ofJson_eq_ok_iff_readText {text : String} :
    ofJson text = .ok options ↔ readText text.toList = .ok options := by
  unfold ofJson
  cases readText text.toList with
  | error stop => exact ⟨nofun, nofun⟩
  | ok options' => rw [Except.mapError, Except.ok.injEq, Except.ok.injEq]

theorem ofJson_eq_ok_iff {text : String} :
    ofJson text = .ok options ↔
      ∃ tokens rest, Written options tokens ∧ Spaced tokens text.toList rest ∧
        ∀ c ∈ rest, c ∈ whiteSpace := by
  rw [ofJson_eq_ok_iff_readText, readText_eq_ok_iff]
  constructor
  · rintro ⟨rest, hread, hrest⟩
    obtain ⟨tokens, written, spaced⟩ := readValue_eq_ok_iff.1 hread
    exact ⟨tokens, rest, written, spaced, skipSpace_eq_nil_iff.1 hrest⟩
  · rintro ⟨tokens, rest, written, spaced, hrest⟩
    exact ⟨rest, readValue_eq_ok_iff.2 ⟨tokens, written, spaced⟩, skipSpace_eq_nil_iff.2 hrest⟩

end Options

end IconImports
