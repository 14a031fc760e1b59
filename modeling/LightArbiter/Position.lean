import LightArbiter.UserRecord

/-!
# The position of the light

Users of the third tier compete by distance. Only the order of the distances matters, so the square
of the distance is compared.
-/

namespace LightArbiter

/-- Where the light is. -/
structure Position where
  x : Coordinate
  y : Coordinate
deriving DecidableEq, Inhabited

/--
The priority of a user with respect to the light, lower being better: the square of the distance,
each operation rounded to the nearest double.
-/
def Position.priority (light : Position) (user : UserRecord) : Magnitude :=
  (user.x.gap light.x).square.add (user.y.gap light.y).square

end LightArbiter
