/-!
# Wildcards

A glob pattern is read as a list of `Token`s, of which every one but the last two matches a single
character. `tokens` reads a pattern, and its `Problem` comes with the number of characters before
the place where it was noticed. `matchesText` says which texts a list of tokens matches: a wildcard
for many characters is decided for all endings of the text at once, so that the work grows only
with the number of tokens times the length of the text.
-/

namespace IconImports

namespace Glob

inductive Token
  | literal (c : Char)
  | any
  /-- A character in one of the ranges, ends included. -/
  | within (ranges : List (Char × Char))
  /-- A character in none of the ranges. -/
  | outside (ranges : List (Char × Char))
  | many
  | recursive
  deriving DecidableEq

inductive Problem
  | invalidRange
  | tooManyStars
  | recursiveNotAlone
  deriving DecidableEq

def Problem.message : Problem → String
  | invalidRange => "invalid range pattern"
  | tooManyStars => "wildcards are either regular `*` or recursive `**`"
  | recursiveNotAlone => "recursive wildcards must form a single path component"

/-- The ranges that stand between brackets. A dash between two characters makes a range; any other
character stands for itself. -/
def ranges : List Char → List (Char × Char)
  | a :: '-' :: b :: s => (a, b) :: ranges s
  | a :: s => (a, a) :: ranges s
  | [] => []

/-- What follows the first of the characters between brackets, up to the closing bracket, and what
comes after it. The first character is `c`, which may be a bracket itself. -/
def classBody? (c : Char) (s : List Char) : Option (List (Char × Char) × List Char) :=
  match s.dropWhile (· ≠ ']') with
  | [] => none
  | _ :: rest => some (ranges (c :: s.takeWhile (· ≠ ']')), rest)

def class? : List Char → Option (Token × List Char)
  | [] => none
  | ['!'] => none
  | '!' :: c :: s => (classBody? c s).map fun p => (.outside p.1, p.2)
  | c :: s => (classBody? c s).map fun p => (.within p.1, p.2)

theorem length_le_of_classBody? {c : Char} {s r : List Char} {l : List (Char × Char)}
    (h : classBody? c s = some (l, r)) : r.length ≤ s.length := by
  unfold classBody? at h
  split at h
  · simp at h
  next d rest hd =>
    simp only [Option.some.injEq, Prod.mk.injEq] at h
    have := (List.dropWhile_suffix (l := s) (fun c => decide (c ≠ ']'))).length_le
    rw [hd] at this
    simp only [List.length_cons] at this
    rw [← h.2]
    omega

theorem length_lt_of_class? {s r : List Char} {token : Token} (h : class? s = some (token, r)) :
    r.length < s.length := by
  unfold class? at h
  split at h
  · simp at h
  · simp at h
  · simp only [Option.map_eq_some_iff, Prod.exists, Prod.mk.injEq] at h
    obtain ⟨l, r', hb, -, rfl⟩ := h
    exact Nat.lt_succ_of_lt (Nat.lt_succ_of_le (length_le_of_classBody? hb))
  · simp only [Option.map_eq_some_iff, Prod.exists, Prod.mk.injEq] at h
    obtain ⟨l, r', hb, -, rfl⟩ := h
    exact Nat.lt_succ_of_le (length_le_of_classBody? hb)

/-- Reads a pattern. `position` counts the characters before it, and `fresh` says whether it starts
a component of a path: two stars must be a component of their own, whose slash belongs to them. -/
def tokens (position : Nat) (fresh : Bool) (s : List Char) :
    Except (Problem × Nat) (List Token) := do
  match s with
  | [] => return []
  | '?' :: s => return .any :: (← tokens (position + 1) false s)
  | '*' :: '*' :: '*' :: _ => throw (.tooManyStars, position + 2)
  | '*' :: '*' :: s =>
    if !fresh then throw (.recursiveNotAlone, position - 1)
    else
      match s with
      | [] => return [.recursive]
      | '/' :: s => return .recursive :: (← tokens (position + 3) true s)
      | _ :: _ => throw (.recursiveNotAlone, position + 2)
  | '*' :: s => return .many :: (← tokens (position + 1) false s)
  | '[' :: s =>
    match _h : class? s with
    | none => throw (.invalidRange, position)
    | some (token, rest) =>
      return token :: (← tokens (position + 1 + (s.length - rest.length)) false rest)
  | c :: s => return .literal c :: (← tokens (position + 1) (c == '/') s)
termination_by s.length
decreasing_by
  · simp
  · simp; omega
  · simp
  · have := length_lt_of_class? _h
    simp; omega
  · simp

def Token.accepts (c : Char) : Token → Bool
  | literal d => c = d
  | any => true
  | within ranges => ranges.any fun r => r.1 ≤ c ∧ c ≤ r.2
  | outside ranges => !ranges.any fun r => r.1 ≤ c ∧ c ≤ r.2
  | many => false
  | recursive => false

def Token.isRun : Token → Bool
  | many | recursive => true
  | _ => false

/-- For each place of a list, whether there is a `true` at that place or after it. -/
def someFrom : List Bool → List Bool
  | [] => []
  | b :: l =>
    let later := someFrom l
    (b || later.headD false) :: later

/-- For each ending of a text, the text itself first and the empty one last, whether the tokens of
one component match it. -/
def matchedEndings : List Token → List Char → List Bool
  | [], s => s.map (fun _ => false) ++ [true]
  | t :: ts, s =>
    let later := matchedEndings ts s
    if t.isRun then someFrom later
    else s.zipWith (fun c rest => t.accepts c && rest) later.tail ++ [false]

def matchesText (ts : List Token) (s : List Char) : Bool := (matchedEndings ts s).headD false

/-! ### What each token matches -/

theorem length_someFrom (l : List Bool) : (someFrom l).length = l.length := by
  induction l with
  | nil => rfl
  | cons b l ih => simp [someFrom, ih]

theorem length_matchedEndings (ts : List Token) (s : List Char) :
    (matchedEndings ts s).length = s.length + 1 := by
  induction ts with
  | nil => simp [matchedEndings]
  | cons t ts ih =>
    by_cases h : t.isRun = true <;> simp [matchedEndings, h, length_someFrom, ih]

theorem tail_matchedEndings (ts : List Token) (c : Char) (s : List Char) :
    (matchedEndings ts (c :: s)).tail = matchedEndings ts s := by
  induction ts with
  | nil => simp [matchedEndings]
  | cons t ts ih =>
    have hl := length_matchedEndings ts (c :: s)
    rcases he : matchedEndings ts (c :: s) with _ | ⟨b, l⟩
    · simp [he] at hl
    · rw [he] at ih
      simp only [List.tail_cons] at ih
      by_cases h : t.isRun = true
      · simp [matchedEndings, h, he, someFrom, ih]
      · have hs := length_matchedEndings ts s
        rcases hm : matchedEndings ts s with _ | ⟨b', l'⟩
        · simp [hm] at hs
        · simp [matchedEndings, h, he, ih, hm]

theorem matchedEndings_cons (ts : List Token) (c : Char) (s : List Char) :
    matchedEndings ts (c :: s) = matchesText ts (c :: s) :: matchedEndings ts s := by
  rw [← tail_matchedEndings ts c s, matchesText]
  have hl := length_matchedEndings ts (c :: s)
  cases h : matchedEndings ts (c :: s) with
  | nil => simp [h] at hl
  | cons b l => simp

theorem matchedEndings_run {t : Token} (h : t.isRun = true) (ts : List Token) (s : List Char) :
    matchedEndings (t :: ts) s = someFrom (matchedEndings ts s) := by
  simp [matchedEndings, h]

theorem matchedEndings_one {t : Token} (h : t.isRun = false) (ts : List Token) (s : List Char) :
    matchedEndings (t :: ts) s =
      s.zipWith (fun c rest => t.accepts c && rest) (matchedEndings ts s).tail ++ [false] := by
  simp [matchedEndings, h]

theorem matchesText_nil (s : List Char) : matchesText [] s = s.isEmpty := by
  cases s <;> simp [matchesText, matchedEndings]

theorem matchesText_run_nil {t : Token} (h : t.isRun = true) (ts : List Token) :
    matchesText (t :: ts) [] = matchesText ts [] := by
  have hl := length_matchedEndings ts []
  rw [matchesText, matchedEndings_run h, matchesText]
  rcases he : matchedEndings ts [] with _ | ⟨b, _ | ⟨d, l⟩⟩
  · rfl
  · simp [someFrom]
  · simp [he] at hl

/-- A wildcard for many characters stands for none of them, or for the first and then for more. -/
theorem matchesText_run_cons {t : Token} (h : t.isRun = true) (ts : List Token) (c : Char)
    (s : List Char) :
    matchesText (t :: ts) (c :: s) = (matchesText ts (c :: s) || matchesText (t :: ts) s) := by
  rw [matchesText.eq_def (t :: ts) (c :: s), matchedEndings_run h, matchedEndings_cons, someFrom,
    List.headD_cons, matchesText.eq_def (t :: ts) s, matchedEndings_run h]

theorem matchesText_one_nil {t : Token} (h : t.isRun = false) (ts : List Token) :
    matchesText (t :: ts) [] = false := by
  simp [matchesText, matchedEndings_one h]

theorem matchesText_one_cons {t : Token} (h : t.isRun = false) (ts : List Token) (c : Char)
    (s : List Char) :
    matchesText (t :: ts) (c :: s) = (t.accepts c && matchesText ts s) := by
  have hl := length_matchedEndings ts s
  rw [matchesText.eq_def (t :: ts) (c :: s), matchedEndings_one h, matchedEndings_cons,
    List.tail_cons, matchesText.eq_def ts s]
  rcases he : matchedEndings ts s with _ | ⟨b, l⟩
  · simp [he] at hl
  · simp

end Glob

end IconImports
