/-!
# The shortest decimal of a binary number

A double stands for every real number that rounds to it. `shortest` finds, in exact arithmetic,
the decimal with the fewest digits among those reals, and of two such decimals the nearer one.
-/

namespace IconImports

/-- The number `digits · 10 ^ exponent`. -/
structure Decimal where
  digits : Nat
  exponent : Int
  deriving DecidableEq

/-- The positive number `significand · 2 ^ exponent`. -/
structure Binary where
  significand : Nat
  exponent : Int
  /-- Whether the next smaller number is only half as far away as the next larger one. -/
  lowerIsNear : Bool
  deriving DecidableEq

namespace Decimal

/-- A number between the ends of the interval of reals that round to it, all three over one
denominator. -/
structure Interval where
  low : Nat
  value : Nat
  high : Nat
  denominator : Nat
  /-- Whether the two ends round to the number too. -/
  closed : Bool

/-- The reals that round to `x`: half of the way to either neighbour. -/
def interval (x : Binary) : Interval :=
  let quarter := x.exponent - 2
  let scale := Nat.pow 2 quarter.toNat
  let below := if x.lowerIsNear then 1 else 2
  { low := (4 * x.significand - below) * scale
    value := 4 * x.significand * scale
    high := (4 * x.significand + 2) * scale
    denominator := Nat.pow 2 (-quarter).toNat
    closed := x.significand % 2 = 0 }

def Interval.inUnits (i : Interval) (exponent : Int) : Interval :=
  let factor := Nat.pow 10 (-exponent).toNat
  { i with
    low := i.low * factor
    value := i.value * factor
    high := i.high * factor
    denominator := i.denominator * Nat.pow 10 exponent.toNat }

def Interval.holds (i : Interval) (n : Nat) : Bool :=
  let x := n * i.denominator
  if i.closed then i.low ≤ x && x ≤ i.high else i.low < x && x < i.high

/-- The whole number in the interval that is nearest to the value, of two equally near ones the
even one. Only the two whole numbers around the value are tried. -/
def Interval.nearest? (i : Interval) : Option Nat :=
  let n := i.value / i.denominator
  let twice := 2 * (i.value % i.denominator)
  let down := twice < i.denominator || (twice == i.denominator && n % 2 == 0)
  let candidates := if down then [n, n + 1] else [n + 1, n]
  candidates.find? i.holds

/-- The place of the first digit of the value: the least `p` such that it is below `10 ^ p`. -/
def Interval.firstPlace (i : Interval) : Int :=
  if i.denominator ≤ i.value then (Nat.toDigits 10 (i.value / i.denominator)).length
  else
    let reaches (n : Nat) : Bool := i.denominator ≤ i.value * Nat.pow 10 (n + 1)
    match (List.range 400).find? reaches with
    | some n => -(n : Int)
    | none => -400

def stripZeros (d : Decimal) : Decimal :=
  let zeros := ((Nat.toDigits 10 d.digits).reverse.takeWhile (· == '0')).length
  ⟨d.digits / Nat.pow 10 zeros, d.exponent + zeros⟩

/-- The decimal with the fewest digits that rounds to `x`; seventeen digits are always enough. -/
def shortest (x : Binary) : Decimal :=
  let i := interval x
  let place := i.firstPlace
  let found := (List.range 17).findSome? fun (n : Nat) =>
    let exponent := place - (n + 1)
    (i.inUnits exponent).nearest?.map fun digits => stripZeros ⟨digits, exponent⟩
  found.getD ⟨0, 0⟩

end Decimal

/-- The weight of the leading bit of a double's significand, which is not stored. -/
def Binary.leadingBit : Nat := 0x10000000000000

def Binary.signBit : Nat := 0x8000000000000000

/-- The magnitude of a finite double other than zero, from its bits without the sign. The numbers
whose stored exponent is zero have no leading bit. -/
def Binary.ofBits (bits : Nat) : Binary :=
  let fraction := bits % leadingBit
  let stored := bits / leadingBit
  if stored = 0 then ⟨fraction, -1074, false⟩
  else ⟨fraction + leadingBit, Int.ofNat stored - 1075, fraction = 0 && 1 < stored⟩

end IconImports
