/-!
# Magnitudes of doubles

A nonnegative double, infinity included, is kept as its bit pattern: these patterns are the
numbers up to that of infinity, and they are ordered as the values are. Every value is a whole
number of units of `2 ^ (-1074)`, so that arithmetic is exact arithmetic on natural numbers followed
by one rounding to the nearest double, `Magnitude.nearest`.
-/

namespace LightArbiter

/-- The power of two. -/
def twoPow (exponent : Nat) : Nat :=
  Nat.pow 2 exponent

/-- The power of ten. -/
def tenPow (exponent : Nat) : Nat :=
  Nat.pow 10 exponent

/-- The quotient rounded to the nearest whole number, a half going to the even neighbour. -/
def roundDiv (num den : Nat) : Nat :=
  let quotient := num / den
  let rest := 2 * (num % den)
  if rest < den then quotient
  else if den < rest then quotient + 1
  else quotient + quotient % 2

/-- A nonnegative double, given by its bit pattern. -/
structure Magnitude where
  code : Nat
  code_le : code ≤ 0x7FF0000000000000 := by decide
deriving DecidableEq

namespace Magnitude

/-- The double zero. -/
def zero : Magnitude := ⟨0, by decide⟩

/-- The value above every finite double. -/
def infinity : Magnitude := ⟨0x7FF0000000000000, by decide⟩

instance : Inhabited Magnitude := ⟨zero⟩

/-! ### Order -/

/-- Bit patterns are ordered as the values they stand for. -/
instance : LE Magnitude := ⟨fun a b => a.code ≤ b.code⟩

instance : LT Magnitude := ⟨fun a b => a.code < b.code⟩

instance (a b : Magnitude) : Decidable (a ≤ b) := inferInstanceAs (Decidable (a.code ≤ b.code))

instance (a b : Magnitude) : Decidable (a < b) := inferInstanceAs (Decidable (a.code < b.code))

theorem not_le {a b : Magnitude} : ¬a ≤ b ↔ b < a := Nat.not_le

/-! ### Values in units of `2 ^ (-1074)` -/

/-- The value as a number of units. The pattern of infinity counts as the next power of two. -/
def units (a : Magnitude) : Nat :=
  if a.code < twoPow 52 then a.code
  else (a.code % twoPow 52 + twoPow 52) * twoPow (a.code / twoPow 52 - 1)

/-- The number of units in one. -/
def one : Nat := twoPow 1074

/-- The pattern of the double nearest to `num / den` units, from infinity's on possibly more. -/
def nearestCode (num den : Nat) : Nat :=
  let quotient := num / den
  if quotient < twoPow 53 then roundDiv num den
  else
    let shift := quotient.log2 - 52
    shift * twoPow 52 + roundDiv num (den * twoPow shift)

/-- The double nearest to `num / den` units, a tie going to the even pattern. -/
def nearest (num den : Nat) : Magnitude :=
  ⟨min (nearestCode num den) infinity.code, Nat.min_le_right ..⟩

/-! ### Arithmetic -/

/-- The sum, rounded once. -/
def add (a b : Magnitude) : Magnitude :=
  nearest (a.units + b.units) 1

/-- The product, rounded once. -/
def mul (a b : Magnitude) : Magnitude :=
  nearest (a.units * b.units) one

/-- The quotient, rounded once. -/
def div (a b : Magnitude) : Magnitude :=
  nearest (a.units * one) b.units

/-- The square, rounded once. -/
def square (a : Magnitude) : Magnitude :=
  a.mul a

/-- The double nearest to a whole number. -/
def ofNat (n : Nat) : Magnitude :=
  nearest (n * one) 1

/--
The double nearest to `digits * 10 ^ exponent`. Above `10 ^ 309` everything is infinite and below
`10 ^ (-325)` everything is zero, so that no power of ten beyond these bounds is computed.
-/
def ofDecimal (digits : Nat) (exponent : Int) : Magnitude :=
  if digits = 0 then zero
  else
    let top := (Nat.toDigits 10 digits).length + exponent
    if 310 < top then infinity
    else if top < -330 then zero
    else if 0 ≤ exponent then nearest (digits * tenPow exponent.toNat * one) 1
    else nearest (digits * one) (tenPow (-exponent).toNat)

end Magnitude

end LightArbiter
