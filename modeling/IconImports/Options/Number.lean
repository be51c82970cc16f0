import IconImports.Decimal.Layout
import IconImports.Options.Error

/-!
# Numbers in a text of options

Options hold no numbers, so a number is always an error; `readNumber` reads it to the end to say
which number it is. A number without point and exponent is an integer if it fits in 64 bits. Every
other number is a double, computed from as many leading digits as fit in 64 bits.
-/

namespace IconImports

namespace Number

/-- The layout of a double: its point is written in its place from `0.00001` up to sixteen digits
before the point. -/
def layout : Decimal.Layout := ⟨-4, 16⟩

/-- The largest significand: 64 bits. -/
def largest : Nat := 0xFFFFFFFFFFFFFFFF

/-- The largest magnitude of a written exponent: 31 bits. -/
def largestExponent : Nat := 0x7FFFFFFF

/-- The largest magnitude of a negative integer. -/
def largestNegative : Nat := 0x8000000000000000

def digitValue (c : Char) : Nat := c.toNat - '0'.toNat

/-- Appends digits to the number `n` while the result is at most `limit`. Gives the number and the
rest of the text, which starts with a digit exactly if that digit was one too many. -/
def digitsOnto (limit n : Nat) : List Char → Nat × List Char
  | [] => (n, [])
  | c :: s =>
    let next := n * 10 + digitValue c
    if c.isDigit && next ≤ limit then digitsOnto limit next s else (n, c :: s)

def startsWithDigit : List Char → Bool
  | [] => false
  | c :: _ => c.isDigit

/-- The double `f · 10 ^ e`, or nothing if it is too large. -/
def scaled (f : Float) (e : Int) : Option Float :=
  if e < -308 then if f == 0 then some f else scaled (f / 1e308) (e + 308)
  else if e < 0 then some (f / Float.ofScientific 1 false (-e).toNat)
  else if e ≤ 308 then
    let product := f * Float.ofScientific 1 false e.toNat
    if product.isInf then none else some product
  else if f == 0 then some f
  else none
termination_by (-e).toNat

def found (negative : Bool) (f : Float) : Found :=
  .decimal (String.ofList (Decimal.ofFloatText layout (if negative then -f else f)))

def ofParts (negative : Bool) (n : Nat) (e : Int) (s : List Char) :
    Except Stop (Found × List Char) :=
  match scaled n.toUInt64.toFloat e with
  | none => .error (.before .numberOutOfRange s)
  | some f => .ok (found negative f, s)

/-- Reads an exponent, after its letter. An exponent that is too large makes the number zero, or
too large itself. -/
def readExponent (negative : Bool) (n : Nat) (e : Int) (s : List Char) :
    Except Stop (Found × List Char) :=
  let (down, s) := match s with
    | '+' :: s => (false, s)
    | '-' :: s => (true, s)
    | s => (false, s)
  match s with
  | [] => .error (.before .endInValue [])
  | c :: rest =>
    if !c.isDigit then .error (.within .invalidNumber (c :: rest))
    else
      let (exponent, s) := digitsOnto largestExponent 0 (c :: rest)
      if startsWithDigit s then
        if n ≠ 0 ∧ down = false then .error (.within .numberOutOfRange s)
        else .ok (found negative 0, s.dropWhile Char.isDigit)
      else ofParts negative n (if down then e - exponent else e + exponent) s

def readFraction (negative : Bool) (n : Nat) (e : Int) (s : List Char) :
    Except Stop (Found × List Char) :=
  if !startsWithDigit s then
    .error (.within (if s.isEmpty then .endInValue else .invalidNumber) s)
  else
    let (n, rest) := digitsOnto largest n s
    let e := e - (s.length - rest.length : Nat)
    match rest.dropWhile Char.isDigit with
    | 'e' :: s | 'E' :: s => readExponent negative n e s
    | s => ofParts negative n e s

/-- An integer, which is a double if it fits in no 64-bit type or is a negative zero. -/
def ofInteger (negative : Bool) (n : Nat) : Found :=
  if !negative then .integer n
  else if n = 0 ∨ largestNegative < n then found true n.toUInt64.toFloat
  else .integer (-n)

/-- Reads what follows the whole part of a number. So far it is `n · 10 ^ dropped`. -/
def readAfterWhole (negative : Bool) (n dropped : Nat) (s : List Char) :
    Except Stop (Found × List Char) :=
  match s with
  | '.' :: s => readFraction negative n dropped s
  | 'e' :: s | 'E' :: s => readExponent negative n dropped s
  | s => if dropped = 0 then .ok (ofInteger negative n, s) else ofParts negative n dropped s

end Number

open Number in
/-- Reads a number, after its sign. -/
def readNumber (negative : Bool) (s : List Char) : Except Stop (Found × List Char) :=
  match s with
  | [] => .error (.before .endInValue [])
  | '0' :: s =>
    if startsWithDigit s then .error (.within .invalidNumber s)
    else readAfterWhole negative 0 0 s
  | c :: rest =>
    if !c.isDigit then .error (.within .invalidNumber (c :: rest))
    else
      let (n, s) := digitsOnto largest 0 (c :: rest)
      let dropped := s.takeWhile Char.isDigit
      readAfterWhole negative n dropped.length (s.drop dropped.length)

end IconImports
