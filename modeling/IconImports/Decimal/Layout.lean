import IconImports.Decimal.Shortest

/-!
# Writing decimals

A `Layout` says for which numbers the decimal point is written in its place; all others are
written with one digit before the point and, after an `e`, a power of ten with its sign.
-/

namespace IconImports

/-- The least and the greatest place of the decimal point, counted from the first digit, at which
it is written in its place. -/
structure Decimal.Layout where
  least : Int
  greatest : Int

namespace Decimal

/-- The text of a decimal. A whole number ends in `.0` where its point is written in its place. -/
def text (layout : Layout) (d : Decimal) : List Char :=
  let digits := Nat.toDigits 10 d.digits
  let point := digits.length + d.exponent
  if layout.least ≤ point ∧ point ≤ layout.greatest then
    if point ≤ 0 then ['0', '.'] ++ List.replicate (-point).toNat '0' ++ digits
    else if 0 ≤ d.exponent then digits ++ List.replicate d.exponent.toNat '0' ++ ['.', '0']
    else digits.take point.toNat ++ '.' :: digits.drop point.toNat
  else
    let fraction := digits.drop 1
    let power := point - 1
    digits.take 1 ++ (if fraction.isEmpty then [] else '.' :: fraction) ++
      ['e', if power < 0 then '-' else '+'] ++ Nat.toDigits 10 power.natAbs

end Decimal

/-- The text of a finite double, with the fewest digits that tell it from all others. -/
def Decimal.ofFloatText (layout : Decimal.Layout) (x : Float) : List Char :=
  let bits := x.toBits.toNat
  let sign := if Binary.signBit ≤ bits then ['-'] else []
  let magnitude := bits % Binary.signBit
  sign ++ if magnitude = 0 then ['0', '.', '0'] else (shortest (.ofBits magnitude)).text layout

end IconImports
