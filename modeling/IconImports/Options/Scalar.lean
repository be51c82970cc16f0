import IconImports.Options.Number

/-!
# Words, strings and other scalars in a text of options

Every reader takes the rest of a text and gives back what it read and what is left, or the fault
with the place where it stopped.
-/

namespace IconImports

def isSpace (c : Char) : Bool := c == ' ' || c == '\t' || c == '\n' || c == '\r'

def skipSpace (s : List Char) : List Char := s.dropWhile isSpace

def readWord : List Char → List Char → Except Stop (List Char)
  | [], s => .ok s
  | _ :: _, [] => .error (.before .endInValue [])
  | c :: w, d :: s => if c = d then readWord w s else .error (.within .expectedWord (d :: s))

/-! ### Strings -/

def hexValue? (c : Char) : Option Nat :=
  if '0' ≤ c ∧ c ≤ '9' then some (c.toNat - '0'.toNat)
  else if 'a' ≤ c ∧ c ≤ 'f' then some (c.toNat - 'a'.toNat + 10)
  else if 'A' ≤ c ∧ c ≤ 'F' then some (c.toNat - 'A'.toNat + 10)
  else none

/-- The letters that may follow a backslash, and the characters for which they stand. -/
def escapeLetters : List (Char × Char) :=
  [('"', '"'), ('\\', '\\'), ('/', '/'), ('b', '\x08'), ('f', '\x0c'), ('n', '\n'), ('r', '\r'),
    ('t', '\t')]

/-- Reads four hexadecimal digits. Four bytes are consumed before they are looked at. -/
def readHexQuad (s : List Char) : Except Stop (Nat × List Char) :=
  let quad := s.take 4
  if byteLength quad < 4 then .error (.before .endInString [])
  else
    match quad.mapM hexValue? with
    | none => .error ⟨.invalidEscape, byteLength s - 4⟩
    | some digits => .ok (digits.foldl (fun n d => 16 * n + d) 0, s.drop 4)

/-- Reads one character of the mark between the two halves of a surrogate pair. -/
def readPairMark (c : Char) : List Char → Except Stop (List Char)
  | [] => .error (.before .endInString [])
  | d :: s => if c = d then .ok s else .error (.within .unfinishedPair (d :: s))

/-- Reads an escape by number, after its letter: one code unit, or two that form a surrogate
pair. -/
def readUnicodeEscape (s : List Char) : Except Stop (Char × List Char) := do
  let (unit, s) ← readHexQuad s
  if 0xDC00 ≤ unit ∧ unit ≤ 0xDFFF then throw (.before .loneSurrogate s)
  else if unit < 0xD800 ∨ 0xDFFF < unit then return (Char.ofNat unit, s)
  else
    let s ← readPairMark '\\' s
    let s ← readPairMark 'u' s
    let (low, s) ← readHexQuad s
    if low < 0xDC00 ∨ 0xDFFF < low then throw (.before .loneSurrogate s)
    else return (Char.ofNat ((unit - 0xD800) * 0x400 + (low - 0xDC00) + 0x10000), s)

def readEscape : List Char → Except Stop (Char × List Char)
  | [] => .error (.before .endInString [])
  | c :: s =>
    if c = 'u' then readUnicodeEscape s
    else
      match escapeLetters.lookup c with
      | none => .error (.within .invalidEscape (c :: s))
      | some d => .ok (d, s)

theorem length_le_of_readHexQuad {s r : List Char} {n : Nat} (h : readHexQuad s = .ok (n, r)) :
    r.length ≤ s.length := by
  simp only [readHexQuad] at h
  split at h
  · simp at h
  · split at h
    · simp at h
    · simp only [Except.ok.injEq, Prod.mk.injEq] at h
      simp [← h.2]

theorem length_le_of_readPairMark {c : Char} {s r : List Char} (h : readPairMark c s = .ok r) :
    r.length ≤ s.length := by
  unfold readPairMark at h
  split at h
  · simp at h
  · split at h
    · simp only [Except.ok.injEq] at h
      simp [h]
    · simp at h

theorem length_le_of_readUnicodeEscape {s r : List Char} {c : Char}
    (h : readUnicodeEscape s = .ok (c, r)) : r.length ≤ s.length := by
  simp only [readUnicodeEscape, bind, Except.bind, pure, Except.pure, throw, throwThe,
    MonadExceptOf.throw] at h
  repeat' split at h
  all_goals try simp at h
  · next h₁ _ _ => simp [← h.2, length_le_of_readHexQuad h₁]
  · next h₁ _ _ _ _ h₂ _ _ h₃ _ _ h₄ _ =>
    have := length_le_of_readHexQuad h₁
    have := length_le_of_readPairMark h₂
    have := length_le_of_readPairMark h₃
    have := length_le_of_readHexQuad h₄
    have := congrArg List.length h.2
    omega

theorem length_lt_of_readEscape {s r : List Char} {c : Char} (h : readEscape s = .ok (c, r)) :
    r.length < s.length := by
  unfold readEscape at h
  split at h
  · simp at h
  · split at h
    · exact Nat.lt_succ_of_le (length_le_of_readUnicodeEscape h)
    · split at h
      · simp at h
      · simp only [Except.ok.injEq, Prod.mk.injEq] at h
        simp [h.2]

/-- Reads a string, after its opening quote. What was read so far is in `read`, last character
first. -/
def readString (read s : List Char) : Except Stop (String × List Char) :=
  match s with
  | [] => .error (.before .endInString [])
  | c :: s =>
    if c = '"' then .ok (String.ofList read.reverse, s)
    else if c = '\\' then
      match _h : readEscape s with
      | .error stop => .error stop
      | .ok (d, rest) => readString (d :: read) rest
    else if c.toNat < 0x20 then .error (.before .controlCharacter s)
    else readString (c :: read) s
termination_by s.length
decreasing_by
  · exact Nat.lt_succ_of_lt (length_lt_of_readEscape _h)
  · simp

/-! ### Values that are not options -/

/-- Reads a value to say what it is. Of a list or an object only the bracket is looked at. -/
def readFound (s : List Char) : Except Stop (Found × List Char) := do
  match s with
  | 'n' :: s => return (.null, ← readWord ['u', 'l', 'l'] s)
  | 't' :: s => return (.boolean true, ← readWord ['r', 'u', 'e'] s)
  | 'f' :: s => return (.boolean false, ← readWord ['a', 'l', 's', 'e'] s)
  | '"' :: s =>
    let (value, s) ← readString [] s
    return (.string value, s)
  | '-' :: s => readNumber true s
  | '[' :: s => return (.sequence, '[' :: s)
  | '\x7b' :: s => return (.map, '\x7b' :: s)
  | s => if Number.startsWithDigit s then readNumber false s else throw (.within .expectedValue s)

end IconImports
