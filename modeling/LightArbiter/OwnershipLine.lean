import LightArbiter.Command
import LightArbiter.Json.Writer

/-!
# Ownership lines

The line that sends a list of users to the arbiter. Its fields stand in alphabetical order.
-/

namespace LightArbiter

/-- The characters of an ownership line. -/
def ownershipChars (records : List UserRecord) : List Char :=
  CommandWord.ownership.name.toList ++ ' ' :: Json.writeRecords Json.Field.alphabetical records

/-- The line that replaces the directory by these records. -/
def ownershipLine (records : List UserRecord) : String :=
  String.ofList (ownershipChars records)

end LightArbiter
