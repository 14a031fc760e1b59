import LightArbiter.Number.Coordinate

/-!
# Writing doubles

A finite double is written with the fewest digits that read back as it: among the multiples of a
power of ten the two neighbours of the value are tried, the coarsest power first. Of two neighbours
that both read back the nearer is taken, and of two equally near ones the even one.
-/

namespace LightArbiter

/-- A number written as `digits * 10 ^ exponent`. -/
structure DecimalForm where
  digits : Nat
  exponent : Int
deriving DecidableEq, Repr

namespace Magnitude

/-- The value divided by `10 ^ exponent`, as numerator and denominator. -/
def scaled (a : Magnitude) (exponent : Int) : Nat × Nat :=
  if 0 ≤ exponent then (a.units, one * tenPow exponent.toNat)
  else (a.units * tenPow (-exponent).toNat, one)

/-- Does the number `digits * 10 ^ exponent` round to the double? -/
def readsBack (a : Magnitude) (digits : Nat) (exponent : Int) : Bool :=
  let read :=
    if 0 ≤ exponent then nearest (digits * tenPow exponent.toNat * one) 1
    else nearest (digits * one) (tenPow (-exponent).toNat)
  read == a

/-- The multiple of `10 ^ exponent` that stands for the double, if one reads back as it. -/
def onGrid? (a : Magnitude) (exponent : Int) : Option DecimalForm :=
  let (num, den) := a.scaled exponent
  let nearer := roundDiv num den
  let lower := num / den
  let farther := if nearer = lower then lower + 1 else lower
  if a.readsBack nearer exponent then some ⟨nearer, exponent⟩
  else if a.readsBack farther exponent then some ⟨farther, exponent⟩
  else none

/-- The exponents of the grids that are tried, from the coarsest to the finest. -/
def gridExponents : List Int :=
  (List.range 634).map fun (n : Nat) => 309 - (n : Int)

/-- The shortest decimal form that reads back as the double. -/
def shortest (a : Magnitude) : DecimalForm :=
  (gridExponents.findSome? a.onGrid?).getD ⟨0, 0⟩

end Magnitude

/-! ### Layout -/

/--
The text of a decimal form. A number from `0.00001` up to but not including `10 ^ 16` is written in
positional notation with a digit on both sides of the point, any other as one digit, the further
digits after a point, and a power of ten with its sign.
-/
def DecimalForm.text (d : DecimalForm) : List Char :=
  let digits := Nat.toDigits 10 d.digits
  let point := digits.length + d.exponent
  if d.digits = 0 then ['0', '.', '0']
  else if -5 < point ∧ point ≤ 0 then
    ['0', '.'] ++ List.replicate (-point).toNat '0' ++ digits
  else if 0 < point ∧ point < digits.length then
    digits.take point.toNat ++ ['.'] ++ digits.drop point.toNat
  else if 0 < point ∧ point ≤ 16 then
    digits ++ List.replicate d.exponent.toNat '0' ++ ['.', '0']
  else
    let fraction := if digits.length = 1 then [] else '.' :: digits.drop 1
    let sign := if point ≤ 0 then '-' else '+'
    digits.take 1 ++ fraction ++ ['e', sign] ++ Nat.toDigits 10 (point - 1).natAbs

/-- The text of a coordinate: a minus sign if it is negative, and the shortest digits. -/
def Coordinate.text (x : Coordinate) : List Char :=
  (if x.negative then ['-'] else []) ++ x.magnitude.shortest.text

end LightArbiter
