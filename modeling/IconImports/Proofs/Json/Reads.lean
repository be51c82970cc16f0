import IconImports.Options.Scalar
import Mathlib.Data.List.Basic

/-!
# JSON documents

`Json.Value` is what a document can hold, and `Json.Reads s value rest` says that a text `s` starts
with a value, behind white space, and that `rest` follows it. A document holds a value if nothing but
white space follows (`Holds`).

The main statement: no document holds two values (`Holds.unique`).
-/

namespace IconImports

namespace Json

/-- What a document holds. A number is kept as it is written, and the members of an object are kept in
their order. -/
inductive Value
  | null
  | boolean (value : Bool)
  | number (text : List Char)
  | string (text : String)
  | array (elements : List Value)
  | object (members : List (String × Value))

/-! ### Strings -/

/-- The code unit that is written as four hexadecimal digits. -/
def codeUnit? (quad : List Char) : Option Nat :=
  if quad.length = 4 then (quad.mapM hexValue?).map fun digits =>
    digits.foldl (fun n d => 16 * n + d) 0
  else none

/-- What stands for one character between the quotes of a string. -/
inductive Spelling : List Char → Char → Prop
  | itself {c : Char} (quote : c ≠ '"') (backslash : c ≠ '\\') (control : 0x20 ≤ c.toNat) :
    Spelling [c] c
  | letter {c d : Char} (h : escapeLetters.lookup c = some d) : Spelling ['\\', c] d
  | unit {quad : List Char} {n : Nat} (h : codeUnit? quad = some n)
    (single : n < 0xD800 ∨ 0xDFFF < n) : Spelling ('\\' :: 'u' :: quad) (Char.ofNat n)
  | pair {quad quad' : List Char} {high low : Nat} (h : codeUnit? quad = some high)
    (h' : codeUnit? quad' = some low) (first : 0xD800 ≤ high ∧ high ≤ 0xDBFF)
    (second : 0xDC00 ≤ low ∧ low ≤ 0xDFFF) :
    Spelling ('\\' :: 'u' :: (quad ++ '\\' :: 'u' :: quad'))
      (Char.ofNat ((high - 0xD800) * 0x400 + (low - 0xDC00) + 0x10000))

/-- What stands between the quotes of a string spells its characters, one after the other. -/
inductive Spells : List Char → List Char → Prop
  | nil : Spells [] []
  | cons {w s t : List Char} {c : Char} (first : Spelling w c) (others : Spells s t) :
    Spells (w ++ s) (c :: t)

variable {s s' t t' w w' rest rest' : List Char} {c c' : Char}

theorem length_of_codeUnit? {quad : List Char} {n : Nat} (h : codeUnit? quad = some n) :
    quad.length = 4 := by
  unfold codeUnit? at h
  split at h
  next length => exact length
  · cases h

theorem codeUnit?_append_inj {quad quad' : List Char} {n n' : Nat} (h : codeUnit? quad = some n)
    (h' : codeUnit? quad' = some n') (heq : quad ++ s = quad' ++ s') : n = n' ∧ s = s' := by
  have length := (length_of_codeUnit? h).trans (length_of_codeUnit? h').symm
  obtain ⟨rfl, rfl⟩ := List.append_inj heq length
  exact ⟨Option.some.inj (h.symm.trans h'), rfl⟩

theorem Spelling.append_inj (h : Spelling w c) (h' : Spelling w' c') (heq : w ++ s = w' ++ s') :
    c = c' ∧ s = s' := by
  have notLetter : escapeLetters.lookup 'u' = none := by decide
  cases h with
  | itself quote backslash control =>
    cases h' with
    | itself => simpa using heq
    | letter | unit | pair => exact absurd (List.cons.inj heq).1 backslash
  | letter h =>
    cases h' with
    | itself quote backslash => exact absurd (List.cons.inj heq).1.symm backslash
    | letter h' =>
      obtain ⟨-, rfl, rfl⟩ : True ∧ _ ∧ _ := by simpa using heq
      exact ⟨Option.some.inj (h.symm.trans h'), rfl⟩
    | unit | pair =>
      obtain ⟨rfl, -⟩ : _ ∧ _ := by simpa using heq
      rw [notLetter] at h
      cases h
  | unit h single =>
    cases h' with
    | itself quote backslash => exact absurd (List.cons.inj heq).1.symm backslash
    | letter h' =>
      obtain ⟨rfl, -⟩ : _ ∧ _ := by simpa using heq
      rw [notLetter] at h'
      cases h'
    | unit h' =>
      obtain ⟨rfl, rfl⟩ := codeUnit?_append_inj h h' (by simpa using heq)
      exact ⟨rfl, rfl⟩
    | pair h' _ first =>
      obtain ⟨rfl, -⟩ := codeUnit?_append_inj h h' (by simpa using heq)
      omega
  | pair h hlow first second =>
    cases h' with
    | itself quote backslash => exact absurd (List.cons.inj heq).1.symm backslash
    | letter h' =>
      obtain ⟨rfl, -⟩ : _ ∧ _ := by simpa using heq
      rw [notLetter] at h'
      cases h'
    | unit h' single =>
      obtain ⟨rfl, -⟩ := codeUnit?_append_inj h h' (by simpa using heq)
      omega
    | pair h' hlow' =>
      obtain ⟨rfl, rest⟩ := codeUnit?_append_inj h h' (by simpa using heq)
      obtain ⟨rfl, rfl⟩ := codeUnit?_append_inj hlow hlow' (by simpa using rest)
      exact ⟨rfl, rfl⟩

theorem Spelling.append_ne_quote (h : Spelling w c) : w ++ s ≠ '"' :: s' := by
  cases h with
  | itself quote => exact fun heq => quote (List.cons.inj heq).1
  | letter | unit | pair => exact fun heq => absurd (List.cons.inj heq).1 (by decide)

/-- A string ends at the first quote that is not part of a spelling. -/
theorem Spells.append_inj (h : Spells s t) (h' : Spells s' t')
    (heq : s ++ '"' :: rest = s' ++ '"' :: rest') : t = t' ∧ rest = rest' := by
  induction h generalizing s' t' with
  | nil =>
    cases h' with
    | nil => exact ⟨rfl, (List.cons.inj heq).2⟩
    | cons first' others' =>
      rw [List.append_assoc] at heq
      exact absurd heq.symm first'.append_ne_quote
  | cons first others ih =>
    rw [List.append_assoc] at heq
    cases h' with
    | nil => exact absurd heq first.append_ne_quote
    | cons first' others' =>
      rw [List.append_assoc] at heq
      obtain ⟨rfl, heq⟩ := first.append_inj first' heq
      obtain ⟨rfl, rfl⟩ := ih others' heq
      exact ⟨rfl, rfl⟩

/-- A string is read at the start of a text, behind white space. -/
def ReadsString (s : List Char) (text : String) (rest : List Char) : Prop :=
  ∃ body, skipSpace s = '"' :: (body ++ '"' :: rest) ∧ Spells body text.toList

theorem ReadsString.unique {text text' : String} (h : ReadsString s text rest)
    (h' : ReadsString s text' rest') : text = text' ∧ rest = rest' := by
  obtain ⟨body, hs, spells⟩ := h
  obtain ⟨body', hs', spells'⟩ := h'
  have heq := (List.cons.inj (hs.symm.trans hs')).2
  obtain ⟨same, rfl⟩ := spells.append_inj spells' heq
  exact ⟨String.toList_inj.1 same, rfl⟩

/-! ### Numbers -/

def AreDigits (s : List Char) : Prop := s ≠ [] ∧ ∀ c ∈ s, c.isDigit = true

/-- A number is written with a sign, a whole part that has no zero in front, a fraction, and an
exponent; only the whole part must be there. -/
inductive IsNumeral : List Char → Prop
  | intro {sign whole fraction exponent : List Char} (hsign : sign ∈ [[], ['-']])
    (hwhole : AreDigits whole ∧ (whole.head? = some '0' → whole = ['0']))
    (hfraction : fraction = [] ∨ ∃ digits, AreDigits digits ∧ fraction = '.' :: digits)
    (hexponent : exponent = [] ∨ ∃ mark ∈ ['e', 'E'], ∃ sign ∈ [[], ['+'], ['-']], ∃ digits,
      AreDigits digits ∧ exponent = mark :: (sign ++ digits)) :
    IsNumeral (sign ++ whole ++ fraction ++ exponent)

/-- The characters with which numbers are written. -/
def isNumeralChar (c : Char) : Bool := c.isDigit || ['+', '-', '.', 'e', 'E'].contains c

theorem isNumeralChar_of_isDigit (h : c.isDigit = true) : isNumeralChar c = true := by
  rw [isNumeralChar, h, Bool.true_or]

theorem IsNumeral.ne_nil (h : IsNumeral s) : s ≠ [] := by
  cases h with
  | intro hsign hwhole => simp [hwhole.1.1]

theorem IsNumeral.isNumeralChar (h : IsNumeral s) : ∀ c ∈ s, isNumeralChar c = true := by
  obtain ⟨hsign, hwhole, hfraction, hexponent⟩ := h
  have digits : ∀ {s}, AreDigits s → ∀ c ∈ s, Json.isNumeralChar c = true :=
    fun h c hc => isNumeralChar_of_isDigit (h.2 c hc)
  simp only [List.forall_mem_append]
  refine ⟨⟨⟨?_, digits hwhole.1⟩, ?_⟩, ?_⟩
  · simp only [List.mem_cons, List.not_mem_nil, or_false] at hsign
    rcases hsign with rfl | rfl <;> exact List.all_eq_true.1 rfl
  · rcases hfraction with rfl | ⟨s, hs, rfl⟩
    · exact List.forall_mem_nil _
    · exact List.forall_mem_cons.2 ⟨by decide, digits hs⟩
  · rcases hexponent with rfl | ⟨mark, hmark, sign, hsign, s, hs, rfl⟩
    · exact List.forall_mem_nil _
    · rw [List.forall_mem_cons, List.forall_mem_append]
      refine ⟨?_, ?_, digits hs⟩
      · simp only [List.mem_cons, List.not_mem_nil, or_false] at hmark
        rcases hmark with rfl | rfl <;> decide
      · simp only [List.mem_cons, List.not_mem_nil, or_false] at hsign
        rcases hsign with rfl | rfl | rfl <;> exact List.all_eq_true.1 rfl

/-- A number ends in front of a character with which it could not go on. -/
theorem IsNumeral.append_inj (h : IsNumeral s) (h' : IsNumeral s')
    (ends : ∀ c ∈ rest.head?, Json.isNumeralChar c = false)
    (ends' : ∀ c ∈ rest'.head?, Json.isNumeralChar c = false) (heq : s ++ rest = s' ++ rest') :
    s = s' ∧ rest = rest' := by
  have taken : ∀ {s rest : List Char}, IsNumeral s →
      (∀ c ∈ rest.head?, Json.isNumeralChar c = false) →
      (s ++ rest).takeWhile Json.isNumeralChar = s := by
    intro s rest h ends
    rw [List.takeWhile_append_of_pos h.isNumeralChar]
    cases rest with
    | nil => simp
    | cons c rest => simp [ends c rfl]
  have same : s = s' := by rw [← taken h ends, heq, taken h' ends']
  subst same
  exact ⟨rfl, List.append_cancel_left heq⟩

/-! ### Values -/

def nullWord : List Char := ['n', 'u', 'l', 'l']

def booleanWord : Bool → List Char
  | true => ['t', 'r', 'u', 'e']
  | false => ['f', 'a', 'l', 's', 'e']

mutual

/-- A value is read at the start of a text, behind white space. -/
inductive Reads : List Char → Value → List Char → Prop
  | null {s rest : List Char} (h : skipSpace s = nullWord ++ rest) : Reads s .null rest
  | boolean {s rest : List Char} {b : Bool} (h : skipSpace s = booleanWord b ++ rest) :
    Reads s (.boolean b) rest
  | number {s text rest : List Char} (h : skipSpace s = text ++ rest) (numeral : IsNumeral text)
    (ends : ∀ c ∈ rest.head?, isNumeralChar c = false) : Reads s (.number text) rest
  | string {s rest : List Char} {text : String} (h : ReadsString s text rest) :
    Reads s (.string text) rest
  | emptyArray {s t rest : List Char} (h : skipSpace s = '[' :: t)
    (close : skipSpace t = ']' :: rest) : Reads s (.array []) rest
  | array {s t rest : List Char} {elements : List Value} (h : skipSpace s = '[' :: t)
    (inner : ReadsElements t elements rest) : Reads s (.array elements) rest
  | emptyObject {s t rest : List Char} (h : skipSpace s = '\x7b' :: t)
    (close : skipSpace t = '\x7d' :: rest) : Reads s (.object []) rest
  | object {s t rest : List Char} {members : List (String × Value)} (h : skipSpace s = '\x7b' :: t)
    (inner : ReadsMembers t members rest) : Reads s (.object members) rest

/-- At least one element is read, with a comma behind each but the last, and then the end of the
array. -/
inductive ReadsElements : List Char → List Value → List Char → Prop
  | last {s t rest : List Char} {element : Value} (h : Reads s element t)
    (close : skipSpace t = ']' :: rest) : ReadsElements s [element] rest
  | cons {s t u rest : List Char} {element : Value} {elements : List Value}
    (h : Reads s element t) (comma : skipSpace t = ',' :: u)
    (others : ReadsElements u elements rest) : ReadsElements s (element :: elements) rest

/-- A key, a colon and a value are read. -/
inductive ReadsMember : List Char → String × Value → List Char → Prop
  | intro {s t u rest : List Char} {key : String} {value : Value} (h : ReadsString s key t)
    (colon : skipSpace t = ':' :: u) (others : Reads u value rest) : ReadsMember s (key, value) rest

/-- At least one member is read, with a comma behind each but the last, and then the end of the
object. -/
inductive ReadsMembers : List Char → List (String × Value) → List Char → Prop
  | last {s t rest : List Char} {member : String × Value} (h : ReadsMember s member t)
    (close : skipSpace t = '\x7d' :: rest) : ReadsMembers s [member] rest
  | cons {s t u rest : List Char} {member : String × Value} {members : List (String × Value)}
    (h : ReadsMember s member t) (comma : skipSpace t = ',' :: u)
    (others : ReadsMembers u members rest) : ReadsMembers s (member :: members) rest

end

/-- A text holds a value and, apart from white space, nothing else. -/
def Holds (text : String) (value : Value) : Prop :=
  ∃ rest, Reads text.toList value rest ∧ skipSpace rest = []

/-! ### One value a text -/

/-- Whether the text of a value can start with the character. -/
def Value.opens (c : Char) : Value → Bool
  | null => c == 'n'
  | boolean _ => c == 't' || c == 'f'
  | number _ => isNumeralChar c
  | string _ => c == '"'
  | array _ => c == '['
  | object _ => c == '\x7b'

theorem Reads.opens {value : Value} (h : Reads s value rest) (hs : skipSpace s = c :: t) :
    value.opens c = true := by
  cases h with
  | null h | emptyArray h | array h | emptyObject h | object h =>
    rw [hs] at h
    obtain rfl := (List.cons.inj h).1
    rfl
  | @boolean _ _ b h =>
    rw [hs] at h
    cases b <;> obtain rfl := (List.cons.inj h).1 <;> rfl
  | number h numeral ends =>
    obtain ⟨d, text, rfl⟩ := List.exists_cons_of_ne_nil numeral.ne_nil
    rw [hs] at h
    obtain rfl := (List.cons.inj h).1
    exact numeral.isNumeralChar c List.mem_cons_self
  | string h =>
    obtain ⟨body, h, -⟩ := h
    rw [hs] at h
    obtain rfl := (List.cons.inj h).1
    rfl

theorem ReadsElements.skipSpace_ne {elements : List Value} (h : ReadsElements s elements rest) :
    skipSpace s ≠ ']' :: t := by
  have closed : ∀ value : Value, value.opens ']' = false := by
    intro value
    cases value <;> rfl
  intro close
  cases h with
  | last h | cons h => exact absurd (h.opens close) (by simp [closed])

theorem ReadsMembers.skipSpace_ne {members : List (String × Value)}
    (h : ReadsMembers s members rest) : skipSpace s ≠ '\x7d' :: t := by
  intro close
  cases h with
  | last h | cons h =>
    obtain ⟨⟨body, key, -⟩⟩ := h
    rw [key] at close
    cases close

section Inversion

variable {value : Value}

theorem Reads.eq_of_null (hs : skipSpace s = nullWord ++ t) (h : Reads s value rest) :
    value = .null ∧ rest = t := by
  have opens := h.opens hs
  cases h with
  | null h => exact ⟨rfl, List.append_cancel_left (h.symm.trans hs)⟩
  | _ => exact absurd opens Bool.false_ne_true

theorem booleanWord_append_inj {b b' : Bool} (h : booleanWord b ++ s = booleanWord b' ++ s') :
    b = b' ∧ s = s' := by
  cases b <;> cases b' <;> simp_all [booleanWord]

theorem Reads.eq_of_boolean {b : Bool} (hs : skipSpace s = booleanWord b ++ t)
    (h : Reads s value rest) : value = .boolean b ∧ rest = t := by
  have first : ∃ c ∈ ['t', 'f'], ∃ u, skipSpace s = c :: u := by
    rw [hs]
    cases b <;> exact ⟨_, by decide, _, rfl⟩
  obtain ⟨c, hc, u, hu⟩ := first
  have opens := h.opens hu
  cases h with
  | boolean h =>
    obtain ⟨rfl, rfl⟩ := booleanWord_append_inj (h.symm.trans hs)
    exact ⟨rfl, rfl⟩
  | _ =>
    simp only [List.mem_cons, List.not_mem_nil, or_false] at hc
    rcases hc with rfl | rfl <;> exact absurd opens Bool.false_ne_true

theorem Reads.eq_of_numeral {text : List Char} (hs : skipSpace s = text ++ t)
    (numeral : IsNumeral text) (ends : ∀ c ∈ t.head?, isNumeralChar c = false)
    (h : Reads s value rest) : value = .number text ∧ rest = t := by
  obtain ⟨c, others, rfl⟩ := List.exists_cons_of_ne_nil numeral.ne_nil
  have numeralChar : isNumeralChar c = true := numeral.isNumeralChar c List.mem_cons_self
  have other : ∀ d, isNumeralChar d = false → c ≠ d := by
    rintro d hd rfl
    exact Bool.false_ne_true (hd.symm.trans numeralChar)
  have opens := h.opens hs
  cases h with
  | number h numeral' ends' =>
    obtain ⟨rfl, rfl⟩ := numeral'.append_inj numeral ends' ends (h.symm.trans hs)
    exact ⟨rfl, rfl⟩
  | boolean =>
    rcases Bool.or_eq_true_iff.1 opens with opens | opens
    · exact absurd (eq_of_beq opens) (other _ (by decide))
    · exact absurd (eq_of_beq opens) (other _ (by decide))
  | _ => exact absurd (eq_of_beq opens) (other _ (by decide))

theorem Reads.eq_of_string {text : String} (hs : ReadsString s text t) (h : Reads s value rest) :
    value = .string text ∧ rest = t := by
  have opens : value.opens '"' = true := h.opens hs.choose_spec.1
  cases h with
  | string h =>
    obtain ⟨rfl, rfl⟩ := h.unique hs
    exact ⟨rfl, rfl⟩
  | _ => exact absurd opens Bool.false_ne_true

theorem Reads.array_cases (hs : skipSpace s = '[' :: t) (h : Reads s value rest) :
    value = .array [] ∧ skipSpace t = ']' :: rest ∨
      ∃ elements, value = .array elements ∧ ReadsElements t elements rest := by
  have opens := h.opens hs
  cases h with
  | emptyArray h close =>
    obtain rfl := (List.cons.inj (h.symm.trans hs)).2
    exact .inl ⟨rfl, close⟩
  | array h inner =>
    obtain rfl := (List.cons.inj (h.symm.trans hs)).2
    exact .inr ⟨_, rfl, inner⟩
  | _ => exact absurd opens Bool.false_ne_true

theorem Reads.object_cases (hs : skipSpace s = '\x7b' :: t) (h : Reads s value rest) :
    value = .object [] ∧ skipSpace t = '\x7d' :: rest ∨
      ∃ members, value = .object members ∧ ReadsMembers t members rest := by
  have opens := h.opens hs
  cases h with
  | emptyObject h close =>
    obtain rfl := (List.cons.inj (h.symm.trans hs)).2
    exact .inl ⟨rfl, close⟩
  | object h inner =>
    obtain rfl := (List.cons.inj (h.symm.trans hs)).2
    exact .inr ⟨_, rfl, inner⟩
  | _ => exact absurd opens Bool.false_ne_true

end Inversion

/-- A text starts with one value at most. -/
theorem Reads.unique {value value' : Value} (h : Reads s value rest) (h' : Reads s value' rest') :
    value' = value ∧ rest' = rest := by
  -- The induction goes over the first reading; what is read second has to follow it.
  suffices ∀ {value' rest'}, Reads s value' rest' → value' = value ∧ rest' = rest from this h'
  refine @Reads.rec
    (fun s value rest _ => ∀ {value' rest'}, Reads s value' rest' → value' = value ∧ rest' = rest)
    (fun s elements rest _ => ∀ {elements' rest'}, ReadsElements s elements' rest' →
      elements' = elements ∧ rest' = rest)
    (fun s member rest _ => ∀ {member' rest'}, ReadsMember s member' rest' →
      member' = member ∧ rest' = rest)
    (fun s members rest _ => ∀ {members' rest'}, ReadsMembers s members' rest' →
      members' = members ∧ rest' = rest)
    ?null ?boolean ?number ?string ?emptyArray ?array ?emptyObject ?object ?lastElement
    ?consElement ?member ?lastMember ?consMember s value rest h
  case null => exact fun h _ _ h' => h'.eq_of_null h
  case boolean => exact fun h _ _ h' => h'.eq_of_boolean h
  case number => exact fun h numeral ends _ _ h' => h'.eq_of_numeral h numeral ends
  case string => exact fun h _ _ h' => h'.eq_of_string h
  case emptyArray =>
    intro s t rest h close value' rest' h'
    rcases h'.array_cases h with ⟨rfl, close'⟩ | ⟨elements', -, inner'⟩
    · exact ⟨rfl, (List.cons.inj (close'.symm.trans close)).2⟩
    · exact absurd close inner'.skipSpace_ne
  case array =>
    intro s t rest elements h inner ih value' rest' h'
    rcases h'.array_cases h with ⟨-, close'⟩ | ⟨elements', rfl, inner'⟩
    · exact absurd close' inner.skipSpace_ne
    · obtain ⟨rfl, rfl⟩ := ih inner'
      exact ⟨rfl, rfl⟩
  case emptyObject =>
    intro s t rest h close value' rest' h'
    rcases h'.object_cases h with ⟨rfl, close'⟩ | ⟨members', -, inner'⟩
    · exact ⟨rfl, (List.cons.inj (close'.symm.trans close)).2⟩
    · exact absurd close inner'.skipSpace_ne
  case object =>
    intro s t rest members h inner ih value' rest' h'
    rcases h'.object_cases h with ⟨-, close'⟩ | ⟨members', rfl, inner'⟩
    · exact absurd close' inner.skipSpace_ne
    · obtain ⟨rfl, rfl⟩ := ih inner'
      exact ⟨rfl, rfl⟩
  case lastElement =>
    intro s t rest element h close ih elements' rest' h'
    cases h' with
    | last h' close' =>
      obtain ⟨rfl, rfl⟩ := ih h'
      exact ⟨rfl, (List.cons.inj (close'.symm.trans close)).2⟩
    | cons h' comma' others' =>
      obtain ⟨rfl, rfl⟩ := ih h'
      cases close.symm.trans comma'
  case consElement =>
    intro s t u rest element elements h comma others ih ihs elements' rest' h'
    cases h' with
    | last h' close' =>
      obtain ⟨rfl, rfl⟩ := ih h'
      cases comma.symm.trans close'
    | cons h' comma' others' =>
      obtain ⟨rfl, rfl⟩ := ih h'
      obtain rfl := (List.cons.inj (comma'.symm.trans comma)).2
      obtain ⟨rfl, rfl⟩ := ihs others'
      exact ⟨rfl, rfl⟩
  case member =>
    intro s t u rest key value h colon inner ih member' rest' h'
    obtain ⟨h', colon', inner'⟩ := h'
    obtain ⟨rfl, rfl⟩ := h'.unique h
    obtain rfl := (List.cons.inj (colon'.symm.trans colon)).2
    obtain ⟨rfl, rfl⟩ := ih inner'
    exact ⟨rfl, rfl⟩
  case lastMember =>
    intro s t rest member h close ih members' rest' h'
    cases h' with
    | last h' close' =>
      obtain ⟨rfl, rfl⟩ := ih h'
      exact ⟨rfl, (List.cons.inj (close'.symm.trans close)).2⟩
    | cons h' comma' others' =>
      obtain ⟨rfl, rfl⟩ := ih h'
      cases close.symm.trans comma'
  case consMember =>
    intro s t u rest member members h comma others ih ihs members' rest' h'
    cases h' with
    | last h' close' =>
      obtain ⟨rfl, rfl⟩ := ih h'
      cases comma.symm.trans close'
    | cons h' comma' others' =>
      obtain ⟨rfl, rfl⟩ := ih h'
      obtain rfl := (List.cons.inj (comma'.symm.trans comma)).2
      obtain ⟨rfl, rfl⟩ := ihs others'
      exact ⟨rfl, rfl⟩

/-- A document holds one value at most. -/
theorem Holds.unique {text : String} {value value' : Value} (h : Holds text value)
    (h' : Holds text value') : value' = value := by
  obtain ⟨rest, h, -⟩ := h
  obtain ⟨rest', h', -⟩ := h'
  exact (h.unique h').1

end Json

end IconImports
