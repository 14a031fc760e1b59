import LightArbiter.Json.Payload

/-!
# Writing payloads

A record is written as an object without white space. In a payload that is kept in a file the fields
stand in the order of their declaration; in an ownership line they stand in alphabetical order.
-/

namespace LightArbiter.Json

/-- The text of a truth value. -/
def writeBoolean (b : Bool) : List Char :=
  if b then ['t', 'r', 'u', 'e'] else ['f', 'a', 'l', 's', 'e']

/-- The text of the value of a field. -/
def writeField (r : UserRecord) : Field → List Char
  | .userId => writeChars r.userId.toList
  | .tier => writeChars r.tier.name.toList
  | .sensorId => writeChars r.sensorId.toList
  | .lightColor => writeChars r.lightColor.chars
  | .lowLight => writeBoolean r.lowLight
  | .x => r.x.text
  | .y => r.y.text

/-- The text of a key, its colon and its value. -/
def writeMember (r : UserRecord) (field : Field) : List Char :=
  writeChars field.name.toList ++ ':' :: writeField r field

/-- Texts with commas between them. -/
def joinCommas : List (List Char) → List Char
  | [] => []
  | [text] => text
  | text :: texts => text ++ ',' :: joinCommas texts

/-- A record with its fields in a given order. -/
def writeRecord (order : List Field) (r : UserRecord) : List Char :=
  '{' :: joinCommas (order.map (writeMember r)) ++ ['}']

/-- The records of a payload with their fields in a given order. -/
def writeRecords (order : List Field) (records : List UserRecord) : List Char :=
  '[' :: joinCommas (records.map (writeRecord order)) ++ [']']

/-- The fields in the alphabetical order of their keys. -/
def Field.alphabetical : List Field :=
  [lightColor, lowLight, sensorId, userId, x, y, tier]

end LightArbiter.Json
