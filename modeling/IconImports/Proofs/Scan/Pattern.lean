import IconImports.Text.Extent
import Mathlib.Data.List.Basic

/-!
# Patterns

A `Pattern` is a regular expression that is tried as a backtracking search does: `readings` are all
ways to read it at the start of a text, the preferred one first. Repetition and options are greedy,
and a group keeps what was read under a name. `Pattern.search` takes the first reading at the
leftmost place that has one, and goes on behind it.

Where a repetition cannot be followed by one more of its characters, it has only one reading that
leads on: the longest (`flatMap_runs`, `flatMap_plus`).
-/

namespace IconImports

/-! ### Patterns and their readings -/

/-- What was read under a name, with the number of bytes that were read before it. -/
structure Group where
  name : String
  start : Nat
  text : List Char
  deriving DecidableEq

/-- One way to read a pattern at the start of a text. -/
structure Reading where
  text : List Char
  groups : List Group
  rest : List Char
  deriving DecidableEq

def Reading.append (r r' : Reading) : Reading where
  text := r.text ++ r'.text
  groups := r.groups ++ r'.groups.map fun g => { g with start := byteLength r.text + g.start }
  rest := r'.rest

instance : Append Reading := ⟨Reading.append⟩

def Reading.group? (r : Reading) (name : String) : Option Group :=
  r.groups.find? (·.name == name)

inductive Pattern
  | empty
  /-- A character of a class. -/
  | one (p : Char → Bool)
  /-- Characters of a class, as many as possible. -/
  | many (p : Char → Bool)
  /-- The pattern, or else nothing. -/
  | optional (a : Pattern)
  /-- The pattern, kept under a name. -/
  | group (name : String) (a : Pattern)
  | seq (a b : Pattern)

namespace Pattern

/-- The readings of characters of a class, the longest one first. -/
def runs (p : Char → Bool) : List Char → List Reading
  | [] => [⟨[], [], []⟩]
  | c :: s => (if p c then (runs p s).map (⟨[c], [], s⟩ ++ ·) else []) ++ [⟨[], [], c :: s⟩]

/-- All readings of a pattern at the start of a text, the preferred ones first. -/
def readings : Pattern → List Char → List Reading
  | empty, s => [⟨[], [], s⟩]
  | one _, [] => []
  | one p, c :: s => if p c then [⟨[c], [], s⟩] else []
  | many p, s => runs p s
  | optional a, s => a.readings s ++ [⟨[], [], s⟩]
  | group name a, s => (a.readings s).map fun r => { r with groups := ⟨name, 0, r.text⟩ :: r.groups }
  | seq a b, s => (a.readings s).flatMap fun r => (b.readings r.rest).map (r ++ ·)

def first? (a : Pattern) (s : List Char) : Option Reading := (a.readings s).head?

/-- A text as a pattern. -/
def word : List Char → Pattern
  | [] => empty
  | c :: w => seq (one (· == c)) (word w)

/-- At least one character of a class, and as many as possible. -/
def plus (p : Char → Bool) : Pattern := seq (one p) (many p)

/-- The leftmost readings that do not overlap, each with the byte at which it starts. Readings of
nothing are left out. -/
def search (a : Pattern) (start : Nat) (s : List Char) : List (Nat × Reading) :=
  match _h : (a.first? s).filter fun r => r.rest.length < s.length with
  | some r => (start, r) :: search a (start + byteLength r.text) r.rest
  | none =>
    match s with
    | [] => []
    | c :: s => search a (start + c.utf8Size) s
termination_by s.length
decreasing_by
  · simpa using (Option.filter_eq_some_iff.1 _h).2
  · simp

end Pattern

theorem Reading.append_eq (r r' : Reading) :
    r ++ r' = ⟨r.text ++ r'.text,
      r.groups ++ r'.groups.map fun g => { g with start := byteLength r.text + g.start }, r'.rest⟩ :=
  rfl

@[simp]
theorem Reading.rest_append (r r' : Reading) : (r ++ r').rest = r'.rest := rfl

theorem Reading.nil_append (s : List Char) (r : Reading) : ⟨[], [], s⟩ ++ r = r := by
  simp [Reading.append_eq]

namespace Pattern

variable {a b : Pattern} {p : Char → Bool} {s : List Char}

/-! ### Forced choices -/

/-- No reading starts with a character of the class. -/
def Avoids (a : Pattern) (p : Char → Bool) : Prop := ∀ c s, p c = true → a.readings (c :: s) = []

theorem avoids_word {d : Char} (h : p d = false) (w : List Char) (b : Pattern) :
    (seq (word (d :: w)) b).Avoids p := by
  intro c s hc
  have hne : (c == d) = false := by
    rw [beq_eq_false_iff_ne]
    rintro rfl
    rw [h] at hc
    cases hc
  simp [word, readings, hne]

theorem flatMap_runs {β : Type} {f : Reading → List β}
    (h : ∀ x c s, p c = true → f ⟨x, [], c :: s⟩ = []) (s : List Char) :
    (runs p s).flatMap f = f ⟨s.takeWhile p, [], s.dropWhile p⟩ := by
  induction s generalizing f with
  | nil => simp [runs]
  | cons c s ih =>
    rw [runs]
    cases hc : p c with
    | false => simp [hc]
    | true =>
      have rest := ih (f := fun r => f (⟨[c], [], s⟩ ++ r)) fun x d t hd => h (c :: x) d t hd
      simp only [if_true, List.flatMap_append, List.flatMap_map, List.flatMap_singleton, rest,
        h [] c s hc, List.append_nil, List.takeWhile_cons, List.dropWhile_cons, hc]
      rfl

theorem flatMap_plus {β : Type} {f : Reading → List β}
    (h : ∀ x c s, p c = true → f ⟨x, [], c :: s⟩ = []) (s : List Char) :
    ((plus p).readings s).flatMap f =
      if s.takeWhile p = [] then [] else f ⟨s.takeWhile p, [], s.dropWhile p⟩ := by
  cases s with
  | nil => simp [plus, readings]
  | cons c s =>
    cases hc : p c with
    | false => simp [plus, readings, hc]
    | true =>
      have rest := flatMap_runs (f := fun r => f (⟨[c], [], s⟩ ++ r))
        (fun x d t hd => h (c :: x) d t hd) s
      simp only [plus, readings, hc, if_true, List.flatMap_singleton, List.flatMap_map, rest,
        List.takeWhile_cons, List.dropWhile_cons, reduceCtorEq, if_false]
      rfl

/-! ### Steps of a search -/

theorem search_of_first?_eq_some {r : Reading}
    (h : a.first? s = some r) (hlt : r.rest.length < s.length) (start : Nat) :
    a.search start s = (start, r) :: a.search (start + byteLength r.text) r.rest := by
  have h : ((a.first? s).filter fun r => r.rest.length < s.length) = some r := by
    simp [h, hlt]
  rw [search]
  split
  next r' h' =>
    obtain rfl := Option.some.inj (h.symm.trans h')
    rfl
  next h' =>
    rw [h] at h'
    cases h'

theorem search_cons_of_first?_eq_none {c : Char}
    (h : a.first? (c :: s) = none) (start : Nat) :
    a.search start (c :: s) = a.search (start + c.utf8Size) s := by
  rw [search]
  split
  next h' =>
    rw [h] at h'
    cases h'
  · rfl

theorem search_nil_of_first?_eq_none (h : a.first? [] = none) (start : Nat) :
    a.search start [] = [] := by
  rw [search]
  split
  next h' =>
    rw [h] at h'
    cases h'
  · rfl

end Pattern

end IconImports
