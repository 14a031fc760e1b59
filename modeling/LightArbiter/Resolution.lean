import LightArbiter.Directory
import LightArbiter.Occupancy

/-!
# Resolution

Who should own the light, given who is present. A present user of the first tier comes before one of
the second, and within a tier the lowest id comes first. A user of the third tier is only considered
to continue: as the owner kept over a new directory, or as the owner that the light shows.
-/

namespace LightArbiter

/-- The users of the third tier that may go on owning the light. -/
structure Continuity where
  retained : Option String := none
  committed : Option String := none
deriving DecidableEq, Repr

/-- May the user go on owning the light? -/
def Continuity.allows (continuity : Continuity) (userId : String) : Bool :=
  continuity.retained == some userId || continuity.committed == some userId

namespace Directory

/--
Go through records for the user who should own the light. A present user of the first tier ends the
search. Of those of the second tier, and of those of the third that may continue, the first one
found so far is kept.
-/
def search (o : Occupancy) (continuity : Continuity) (second third : Option UserRecord) :
    List UserRecord → Option UserRecord
  | [] => second.or third
  | r :: records =>
    if o.isOccupied r.sensorId then
      match r.tier with
      | .user1 => some r
      | .user2 => search o continuity (second.or (some r)) third records
      | .user3 =>
        if third.isNone && continuity.allows r.userId then
          search o continuity second (some r) records
        else search o continuity second third records
    else search o continuity second third records

/-- The user who should own the light. -/
def resolve (d : Directory) (o : Occupancy) (continuity : Continuity) : Option UserRecord :=
  search o continuity none none d.records

end Directory

end LightArbiter
