/-!
# Text without control sequences

Text made for a terminal holds control sequences, each opened by an escape character. `visible` is
what is left of such a text where there is no terminal: control characters other than white space
are dropped, and with them the sequences that they open. In most kinds of sequence white space
breaks in: it is kept together with what follows it, and the sequence is taken up again at the next
control character, unless a character of more than one byte came before.

The main statement: a text without control characters is left as it is (`visible_eq_self`).
-/

namespace IconImports

namespace Terminal

/-- What the next character of a text belongs to. -/
inductive Mode
  | text
  /-- A sequence of which only the escape character was read. -/
  | escape
  /-- A sequence with an intermediate character right after the escape character. -/
  | designation
  /-- A control sequence, which a bracket opens. -/
  | control
  /-- A command to the operating system, which a bell ends. -/
  | command
  /-- A device control string, right after the letter that opens it. -/
  | device
  /-- A device control string, at its parameters. -/
  | deviceParameters
  /-- A device control string, at an intermediate character. -/
  | deviceIntermediates
  /-- The body of a string, which ends where the encoding of a character holds a terminator. -/
  | body
  deriving DecidableEq

def escapeCharacter : Char := '\x1b'

/-- White space that is kept although it is a control character. -/
def isSpacing (c : Char) : Bool := c = '\t' ∨ c = '\n' ∨ c = '\x0c' ∨ c = '\r'

def isControl (c : Char) : Bool := (c < ' ' ∧ !isSpacing c) ∨ c = '\x7f'

def isWide (c : Char) : Bool := '\x7f' < c

/-- The characters that may stand between the opening of a sequence and its last character. -/
def isIntermediate (c : Char) : Bool := ' ' ≤ c ∧ c ≤ '/'

def isParameter (c : Char) : Bool := '0' ≤ c ∧ c ≤ '?'

def isFinal (c : Char) : Bool := '@' ≤ c ∧ c ≤ '~'

def terminator : UInt8 := 0x9C

namespace Mode

/-- What the character after `c` belongs to. Two characters cancel every sequence, and an escape
character opens another one. -/
def after (mode : Mode) (c : Char) : Mode :=
  if c = '\x18' ∨ c = '\x1a' then text
  else if c = escapeCharacter then escape
  else
    match mode with
    | text => text
    | escape =>
      if isIntermediate c then designation
      else if c = '[' then control
      else if c = ']' then command
      else if c = 'P' then device
      else if c = 'X' ∨ c = '^' ∨ c = '_' then body
      else if isParameter c ∨ isFinal c then text
      else escape
    | designation => if isParameter c ∨ isFinal c then text else designation
    | control => if isFinal c then text else control
    | command => if c = '\x07' then text else command
    | device =>
      if isIntermediate c then deviceIntermediates
      else if isParameter c then deviceParameters
      else if isFinal c then body
      else device
    | deviceParameters =>
      if isIntermediate c then deviceIntermediates
      else if isFinal c ∨ '<' ≤ c ∧ isParameter c then body
      else deviceParameters
    | deviceIntermediates =>
      if isParameter c ∨ isFinal c then body else deviceIntermediates
    | body => if (String.utf8EncodeChar c).contains terminator then text else body

/-- Whether a character is kept that belongs to what the mode says. -/
def keeps (c : Char) : Mode → Bool
  | text => !isControl c
  | escape | designation | control => isSpacing c
  | _ => false

end Mode

/-- What is left of a text from a place on. `kept` says whether the character before that place was
kept, so that what follows is too, whatever the mode. -/
def visibleFrom (mode : Mode) (kept : Bool) : List Char → List Char
  | [] => []
  | c :: s =>
    if kept && !isControl c then c :: visibleFrom (if isWide c then .text else mode) true s
    else if mode.keeps c then c :: visibleFrom (mode.after c) true s
    else visibleFrom (mode.after c) false s

def visible (s : List Char) : List Char := visibleFrom .text false s

theorem visibleFrom_text_eq_self {s : List Char} (h : ∀ c ∈ s, isControl c = false)
    (kept : Bool) :
    visibleFrom .text kept s = s := by
  induction s generalizing kept with
  | nil => rfl
  | cons c s ih =>
    simp only [List.mem_cons, forall_eq_or_imp] at h
    have hne : c ≠ '\x18' ∧ c ≠ '\x1a' ∧ c ≠ escapeCharacter := by
      refine ⟨?_, ?_, ?_⟩ <;> rintro rfl <;> exact absurd h.1 (by decide)
    simp [visibleFrom, h.1, ih h.2, Mode.keeps, Mode.after, hne]

theorem visible_eq_self {s : List Char} (h : ∀ c ∈ s, isControl c = false) : visible s = s :=
  visibleFrom_text_eq_self h false

/-! ### Writing for a terminal -/

inductive Stretch
  | plain (text : String)
  | marked (text : String)
  deriving DecidableEq

/-- A stretch as it is written for a terminal. -/
def Stretch.encode : Stretch → List Char
  | plain text => text.toList
  | marked text =>
    [escapeCharacter, '[', '1', 'm'] ++ text.toList ++ [escapeCharacter, '[', '0', 'm']

/-- What is left of stretches that were written for a terminal. -/
def visibleText (stretches : List Stretch) : String :=
  String.ofList (visible (stretches.flatMap Stretch.encode))

end Terminal

end IconImports
