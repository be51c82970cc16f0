/-!
# Byte offsets in a text

Places in a text are counted in bytes of its UTF-8 form. `byteLength` measures a text, a `Span`
is a part of one, `slice?` is what stands in a span, and `Position` is a place given by line and
column.

The main statement: a span has a slice exactly if the text is cut at both of its ends
(`slice?_eq_some_iff`).
-/

namespace IconImports

/-- The number of bytes of a text in UTF-8. -/
def byteLength (s : List Char) : Nat :=
  s.foldr (fun c n => c.utf8Size + n) 0

@[simp]
theorem byteLength_nil : byteLength [] = 0 := rfl

@[simp]
theorem byteLength_cons (c : Char) (s : List Char) :
    byteLength (c :: s) = c.utf8Size + byteLength s := rfl

@[simp]
theorem byteLength_append (s t : List Char) :
    byteLength (s ++ t) = byteLength s + byteLength t := by
  induction s with
  | nil => simp
  | cons c s ih => simp [ih, Nat.add_assoc]

/-- A text is cut in only one way after a given number of bytes. -/
theorem append_inj_of_byteLength_eq {a b c d : List Char} (h : a ++ b = c ++ d)
    (hlen : byteLength a = byteLength c) : a = c ∧ b = d := by
  induction a generalizing c with
  | nil =>
    cases c with
    | nil => exact ⟨rfl, h⟩
    | cons y c =>
      have := y.utf8Size_pos
      simp only [byteLength_nil, byteLength_cons] at hlen
      omega
  | cons x a ih =>
    cases c with
    | nil =>
      have := x.utf8Size_pos
      simp only [byteLength_nil, byteLength_cons] at hlen
      omega
    | cons y c =>
      obtain ⟨rfl, htail⟩ := List.cons.inj h
      obtain ⟨rfl, rfl⟩ := ih htail (by simpa using hlen)
      exact ⟨rfl, rfl⟩

/-- The bytes from offset `start` up to offset `stop`, which is not part of it. -/
structure Span where
  start : Nat
  stop : Nat
  deriving DecidableEq

@[simp]
theorem utf8ByteSize_ofList (s : List Char) : (String.ofList s).utf8ByteSize = byteLength s := by
  induction s with
  | nil => rfl
  | cons c s ih =>
    rw [← List.singleton_append, String.ofList_append, String.utf8ByteSize_append, ih,
      ← String.singleton_eq_ofList, String.utf8ByteSize_singleton]
    rfl

theorem byteLength_toList (s : String) : byteLength s.toList = s.utf8ByteSize := by
  rw [← utf8ByteSize_ofList, String.ofList_toList]

/-- The text in a span. There is none if the span is reversed, or if one of its ends lies beyond the
text or within a character. -/
def slice? (s : String) (span : Span) : Option String :=
  if h : (String.Pos.Raw.mk span.start).IsValid s ∧ (String.Pos.Raw.mk span.stop).IsValid s ∧
      span.start ≤ span.stop then
    some (s.extract ⟨⟨span.start⟩, h.1⟩ ⟨⟨span.stop⟩, h.2.1⟩)
  else none

theorem isSome_slice?_iff {s : String} {span : Span} :
    (slice? s span).isSome ↔ (String.Pos.Raw.mk span.start).IsValid s ∧
      (String.Pos.Raw.mk span.stop).IsValid s ∧ span.start ≤ span.stop := by
  unfold slice?
  split
  next h => exact ⟨fun _ => h, fun _ => rfl⟩
  next h => exact ⟨nofun, fun h' => absurd h' h⟩

theorem slice?_append (a b c : String) :
    slice? (a ++ b ++ c) ⟨a.utf8ByteSize, a.utf8ByteSize + b.utf8ByteSize⟩ = some b := by
  have start : (String.Pos.Raw.mk a.utf8ByteSize).IsValid (a ++ b ++ c) :=
    String.Pos.Raw.isValid_iff_exists_append.2 ⟨a, b ++ c, String.append_assoc, rfl⟩
  have stop : (String.Pos.Raw.mk (a.utf8ByteSize + b.utf8ByteSize)).IsValid (a ++ b ++ c) :=
    String.Pos.Raw.isValid_iff_exists_append.2
      ⟨a ++ b, c, rfl, by simp [String.Pos.Raw.ext_iff, String.utf8ByteSize_append]⟩
  rw [slice?, dif_pos ⟨start, stop, Nat.le_add_right ..⟩, Option.some.injEq,
    ← String.toByteArray_inj]
  simp only [String.toByteArray_extract, String.append_assoc, String.toByteArray_append,
    ← String.size_toByteArray]
  rw [← ByteArray.append_assoc, ByteArray.extract_append, ByteArray.extract_append_eq_right rfl rfl,
    ByteArray.size_append]
  simp

theorem slice?_eq_some_iff {s t : String} {span : Span} :
    slice? s span = some t ↔
      ∃ a c, s = a ++ t ++ c ∧ span = ⟨a.utf8ByteSize, a.utf8ByteSize + t.utf8ByteSize⟩ := by
  constructor
  · intro h
    obtain ⟨i, j⟩ := span
    obtain ⟨start, stop, le⟩ : (String.Pos.Raw.mk i).IsValid s ∧
        (String.Pos.Raw.mk j).IsValid s ∧ i ≤ j :=
      isSome_slice?_iff.1 (Option.isSome_of_eq_some h)
    obtain ⟨a, r, rfl, hi⟩ := String.Pos.Raw.isValid_iff_exists_append.1 start
    obtain rfl : i = a.utf8ByteSize := congrArg String.Pos.Raw.byteIdx hi
    -- The second cut falls into what follows the first one, since the span is not reversed.
    obtain ⟨b, c, rfl, hj⟩ : ∃ b c, r = b ++ c ∧ j = a.utf8ByteSize + b.utf8ByteSize := by
      rcases String.Pos.Raw.isValid_append.1 stop with left | ⟨-, right⟩
      · exact ⟨"", r, by simp, Nat.le_antisymm left.le_utf8ByteSize le⟩
      · obtain ⟨b, c, rfl, hb⟩ := String.Pos.Raw.isValid_iff_exists_append.1 right
        have hb : j - a.utf8ByteSize = b.utf8ByteSize := congrArg String.Pos.Raw.byteIdx hb
        exact ⟨b, c, rfl, by omega⟩
    subst hj
    rw [← String.append_assoc, slice?_append] at h
    obtain rfl := Option.some.inj h
    exact ⟨a, c, String.append_assoc.symm, rfl⟩
  · rintro ⟨a, c, rfl, rfl⟩
    exact slice?_append a t c

/-- What follows `a` and goes on up to `c` is the slice from the end of `a` to the start of `c`. -/
theorem slice?_of_toList_eq {s : String} {a b c : List Char} (h : s.toList = a ++ b ++ c) :
    slice? s ⟨byteLength a, byteLength (a ++ b)⟩ = some (String.ofList b) := by
  have hs : s = String.ofList a ++ String.ofList b ++ String.ofList c := by
    rw [← String.ofList_append, ← String.ofList_append, ← h, String.ofList_toList]
  rw [hs, byteLength_append, ← utf8ByteSize_ofList a, ← utf8ByteSize_ofList b]
  exact slice?_append _ _ _

theorem slice?_to_end {s : String} {a b : List Char} (h : s.toList = a ++ b) :
    slice? s ⟨byteLength a, s.utf8ByteSize⟩ = some (String.ofList b) := by
  rw [← byteLength_toList, h]
  exact slice?_of_toList_eq (c := []) (by simpa using h)

/-- A place in a text: its line, from one, and the number of bytes before it on that line. -/
structure Position where
  line : Nat
  column : Nat
  deriving DecidableEq

/-- The place that is `offset` bytes into the text; a line ends after its line feed. -/
def Position.ofOffset (s : List Char) (offset : Nat) : Position :=
  let passed := s.foldl step (0, 0, 0)
  ⟨1 + passed.2.1, offset - passed.2.2⟩
where
  /-- Passes one character. The state holds the bytes passed, the line feeds before `offset`,
  and the offset at which the last line began. -/
  step (state : Nat × Nat × Nat) (c : Char) : Nat × Nat × Nat :=
    let next := state.1 + c.utf8Size
    if c = '\n' ∧ state.1 < offset then (next, state.2.1 + 1, next)
    else (next, state.2.1, state.2.2)

end IconImports
