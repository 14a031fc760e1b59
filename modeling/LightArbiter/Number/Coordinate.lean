import LightArbiter.Number.Magnitude

/-!
# Coordinates

A coordinate is a finite double: a sign and a finite magnitude. Both zeros are kept apart, because
they are written differently, although they have the same value.
-/

namespace LightArbiter

/-- A finite double. -/
structure Coordinate where
  negative : Bool
  magnitude : Magnitude
  finite : magnitude < Magnitude.infinity
deriving DecidableEq

namespace Coordinate

/-- The positive zero. -/
def zero : Coordinate := ⟨false, Magnitude.zero, by decide⟩

instance : Inhabited Coordinate := ⟨zero⟩

/-- The coordinate of a sign and a magnitude, if the magnitude is finite. -/
def ofMagnitude? (negative : Bool) (magnitude : Magnitude) : Option Coordinate :=
  if finite : magnitude < Magnitude.infinity then some ⟨negative, magnitude, finite⟩ else none

/-- The value in units of `2 ^ (-1074)`. -/
def units (x : Coordinate) : Int :=
  if x.negative then -(x.magnitude.units : Int) else x.magnitude.units

/-- The bit pattern of the double, the sign at the top. -/
def bits (x : Coordinate) : Nat :=
  (if x.negative then twoPow 63 else 0) + x.magnitude.code

/-- Equality of values: the two zeros are the same value. -/
def sameValue (x y : Coordinate) : Bool :=
  x.units == y.units

@[simp] theorem sameValue_self (x : Coordinate) : x.sameValue x = true := by simp [sameValue]

/-- The magnitude of the difference, rounded once. -/
def gap (x y : Coordinate) : Magnitude :=
  Magnitude.nearest (x.units - y.units).natAbs 1

end Coordinate

end LightArbiter
