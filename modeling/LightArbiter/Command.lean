import LightArbiter.Json.Payload
import LightArbiter.Number.Decimal
import LightArbiter.Position

/-!
# Commands

A line of input is a command word and, after the first space, its argument. Blanks around the line
do not count. The four commands place the light, replace the directory, report a sensor's reading,
and claim the light for a user of the third tier.
-/

namespace LightArbiter

/-- The first word of a command. -/
inductive CommandWord where
  | location
  | ownership
  | sensorOccupied
  | user3
deriving DecidableEq, Repr

namespace CommandWord

/-- The spelling of the word in a line. -/
def name : CommandWord → String
  | location => "location"
  | ownership => "ownership"
  | sensorOccupied => "sensor_occupied"
  | user3 => "user3"

/-- All command words. -/
def all : List CommandWord := [location, ownership, sensorOccupied, user3]

/-- The command word of a spelling. -/
def ofChars? (cs : List Char) : Option CommandWord :=
  all.find? fun word => word.name.toList == cs

end CommandWord

/-- A command with its argument. -/
inductive Command where
  | location (position : Position)
  | ownership (records : List UserRecord)
  | sensorOccupied (sensorId : String) (occupied : Bool)
  | claim (userId : String)
deriving DecidableEq

/-- The word of a command. -/
def Command.word : Command → CommandWord
  | location _ => .location
  | ownership _ => .ownership
  | sensorOccupied .. => .sensorOccupied
  | claim _ => .user3

/-! ### Errors -/

/-- What is wrong with the argument of a known command. -/
inductive BadArgument where
  | locationUsage
  | badCoordinate (text : String)
  | sensorUsage
  | badOccupied (text : String)
  | claimUsage
deriving DecidableEq

/-- Why a line is no command. -/
inductive BadLine where
  | unknownCommand (word : String)
  | badArgument (reason : BadArgument)
  | badPayload (problem : Json.Problem)
deriving DecidableEq

/-- The command whose argument is bad. -/
def BadArgument.word : BadArgument → CommandWord
  | locationUsage => .location
  | badCoordinate _ => .location
  | sensorUsage => .sensorOccupied
  | badOccupied _ => .sensorOccupied
  | claimUsage => .user3

/-- The wording of the reason. -/
def BadArgument.reason : BadArgument → String
  | locationUsage => "usage: location <x> <y>"
  | badCoordinate text => "invalid coordinate " ++ Text.quote text
  | sensorUsage => "usage: sensor_occupied <sensor_id> <true|false>"
  | badOccupied text => "expected true or false, got " ++ Text.quote text
  | claimUsage => "usage: user3 <user_id>"

/-- The wording of the error, the first problem of a payload apart. -/
def BadLine.message : BadLine → String
  | unknownCommand word => "unrecognized command " ++ Text.quote word
  | badArgument reason =>
    "invalid arguments for " ++ reason.word.name ++ ": " ++ reason.reason
  | badPayload (.mismatch reason) => "malformed ownership payload: " ++ reason.message
  | badPayload _ => "malformed ownership payload"

/-! ### Arguments -/

/-- A coordinate of the light. -/
def readCoordinate (cs : List Char) : Except BadLine Coordinate :=
  match Coordinate.ofChars? cs with
  | some x => .ok x
  | none => .error (.badArgument (.badCoordinate (String.ofList cs)))

/-- The argument of `location`: two coordinates. -/
def readLocation (argument : List Char) : Except BadLine Command :=
  match Text.words argument with
  | [x, y] => do return .location ⟨← readCoordinate x, ← readCoordinate y⟩
  | _ => .error (.badArgument .locationUsage)

/-- The argument of `ownership`: the records of a payload. -/
def readOwnership (argument : List Char) : Except BadLine Command :=
  match Json.recordsOfChars argument with
  | .ok records => .ok (.ownership records)
  | .error problem => .error (.badPayload problem)

/-- The argument of `sensor_occupied`: a sensor and a truth value. -/
def readSensor (argument : List Char) : Except BadLine Command :=
  match Text.words argument with
  | [sensor, occupied] =>
    if occupied = "true".toList then .ok (.sensorOccupied (String.ofList sensor) true)
    else if occupied = "false".toList then .ok (.sensorOccupied (String.ofList sensor) false)
    else .error (.badArgument (.badOccupied (String.ofList occupied)))
  | _ => .error (.badArgument .sensorUsage)

/-- The argument of `user3`: a user, who may have a name with blanks in it. -/
def readClaim (argument : List Char) : Except BadLine Command :=
  if argument.isEmpty then .error (.badArgument .claimUsage)
  else .ok (.claim (String.ofList argument))

/-! ### Lines -/

/-- The word before the first space of a text, and the text after that space. -/
def splitWord (cs : List Char) : List Char × List Char :=
  (cs.takeWhile (· ≠ ' '), (cs.dropWhile (· ≠ ' ')).drop 1)

/-- The command of the characters of a line. -/
def Command.ofChars (line : List Char) : Except BadLine Command :=
  let (word, argument) := splitWord (Text.trim line)
  match CommandWord.ofChars? word with
  | some .location => readLocation argument
  | some .ownership => readOwnership argument
  | some .sensorOccupied => readSensor argument
  | some .user3 => readClaim argument
  | none => .error (.unknownCommand (String.ofList word))

/-- The command of a line. -/
def Command.ofLine (line : String) : Except BadLine Command :=
  Command.ofChars line.toList

end LightArbiter
