import LightArbiter.Color
import LightArbiter.Number.Shortest

/-!
# What can be wrong with a payload

A payload is read from left to right and the first problem ends the reading: the text ends too
early, it is not JSON, or it is JSON that is not what is wanted. Only the last kind has a message.
-/

namespace LightArbiter.Json

/-- A number in a payload: its value, and the whole number that was written if it was one. -/
structure Number where
  coordinate : Coordinate
  whole? : Option Int
deriving DecidableEq

/-- A value of the wrong type, as far as the message tells about it. -/
inductive Found where
  | null
  | boolean (value : Bool)
  | number (value : Number)
  | text (value : String)
  | array
  | object
deriving DecidableEq

/-- What was to be read instead. -/
inductive Wanted where
  | payload
  | record
  | text
  | boolean
  | number
  | nothing
deriving DecidableEq

/-- JSON that does not describe a list of users. -/
inductive Mismatch where
  | wrongType (found : Found) (wanted : Wanted)
  | unknownTier (name : String)
  | duplicateField (name : String)
  | missingField (name : String)
  | tooFewFields (count : Nat)
  | invalidColor (error : InvalidColor)
deriving DecidableEq

/-- The first problem in a payload. -/
inductive Problem where
  | cutShort
  | malformed
  | mismatch (reason : Mismatch)
deriving DecidableEq

/-! ### Wording -/

/-- A whole number in decimal digits. -/
def intText (n : Int) : String :=
  (if n < 0 then "-" else "") ++ n.natAbs.repr

/-- The description of a value of the wrong type. -/
def Found.describe : Found → String
  | null => "null"
  | boolean value => "boolean `" ++ (if value then "true" else "false") ++ "`"
  | number ⟨_, some n⟩ => "integer `" ++ intText n ++ "`"
  | number ⟨x, none⟩ => "floating point `" ++ String.ofList x.text ++ "`"
  | text value => "string " ++ Text.quote value
  | array => "sequence"
  | object => "map"

/-- The description of what was to be read. -/
def Wanted.describe : Wanted → String
  | payload => "a sequence"
  | record => "struct UserRecord"
  | text => "a string"
  | boolean => "a boolean"
  | number => "f64"
  | nothing => "unit"

/-- The wording of a mismatch. -/
def Mismatch.message : Mismatch → String
  | wrongType found wanted =>
    "invalid type: " ++ found.describe ++ ", expected " ++ wanted.describe
  | unknownTier name =>
    "unknown variant `" ++ name ++ "`, expected one of `USER1`, `USER2`, `USER3`"
  | duplicateField name => "duplicate field `" ++ name ++ "`"
  | missingField name => "missing field `" ++ name ++ "`"
  | tooFewFields count =>
    "invalid length " ++ count.repr ++ ", expected struct UserRecord with 7 elements"
  | invalidColor error => error.message

end LightArbiter.Json
