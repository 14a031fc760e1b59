import LightArbiter.Color
import LightArbiter.Number.Coordinate
import LightArbiter.Tier

/-!
# User records

An entry of the ownership directory: who the user is, which sensor reports the user's presence, how
the user likes the light, and where the user is.
-/

namespace LightArbiter

/-- One entry of the ownership directory. -/
structure UserRecord where
  userId : String
  tier : Tier
  sensorId : String
  lightColor : Color
  lowLight : Bool
  x : Coordinate
  y : Coordinate
deriving DecidableEq, Inhabited

namespace UserRecord

/-- Equality of records, in which the two zeros of a coordinate are the same. -/
def same (r s : UserRecord) : Bool :=
  r.userId == s.userId && r.tier == s.tier && r.sensorId == s.sensorId &&
    r.lightColor == s.lightColor && r.lowLight == s.lowLight && r.x.sameValue s.x &&
    r.y.sameValue s.y

@[simp] theorem same_self (r : UserRecord) : r.same r = true := by simp [same]

/-- A record with the usual settings: a sensor named after the user, a dark blue light, the origin. -/
def plain (userId : String) (tier : Tier) : UserRecord where
  userId := userId
  tier := tier
  sensorId := "s-" ++ userId
  lightColor := ⟨10, 20, 30⟩
  lowLight := false
  x := Coordinate.zero
  y := Coordinate.zero

end UserRecord

/-- Equality of possible owners: nobody is nobody, and records are compared by `UserRecord.same`. -/
def sameOwner : Option UserRecord → Option UserRecord → Bool
  | none, none => true
  | some r, some s => r.same s
  | _, _ => false

@[simp] theorem sameOwner_self (r : Option UserRecord) : sameOwner r r = true := by
  cases r <;> simp [sameOwner]

end LightArbiter
