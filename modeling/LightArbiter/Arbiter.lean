import LightArbiter.Command
import LightArbiter.Display
import LightArbiter.Resolution
import LightArbiter.Window

/-!
# The arbiter

The arbiter keeps the directory, the last readings, the position of the light, what the light shows
and the outcome that waits for the end of a departure window. Every operation gets the time at which
it happens. Arrivals, claims and new directories are acted upon at once; a sensor that sees nobody
any more lets its outcome wait, and whatever is decided later replaces that outcome.

A refused command leaves the arbiter as it was.
-/

namespace LightArbiter

/-- The settings of an arbiter. -/
structure Config where
  /-- How long a departure waits. -/
  debounce : Time := 3000
  palette : Palette := {}
deriving DecidableEq

/-- Why a claim is refused. -/
inductive ClaimRefusal where
  | unknownUser
  | notUser3 (tier : Tier)
  | outranked (tier : Tier)
  | locationUnset
  | incumbentCloser (incumbent : String)
deriving DecidableEq, Repr

/-- Why a command is refused. -/
inductive Refusal where
  | directory (error : DirectoryError)
  | claim (userId : String) (reason : ClaimRefusal)
deriving DecidableEq, Repr

/-- The wording of the reason. -/
def ClaimRefusal.message : ClaimRefusal → String
  | unknownUser => "unknown user"
  | notUser3 tier => "user is " ++ tier.name ++ ", not USER3"
  | outranked tier => "light is held by a " ++ tier.name ++ " user"
  | locationUnset => "light location has not been set"
  | incumbentCloser incumbent =>
    "incumbent " ++ incumbent ++ " is at least as close to the light"

/-- The wording of the refusal. -/
def Refusal.message : Refusal → String
  | directory error => "ownership rejected: " ++ error.message
  | claim userId reason => "claim by " ++ userId ++ " rejected: " ++ reason.message

/-- The state of the arbitration. -/
structure Arbiter where
  config : Config
  light : Option Position
  directory : Directory
  occupancy : Occupancy
  display : Display
  window : Window
deriving DecidableEq

namespace Arbiter

/-- An arbiter without users, with a light that is dark. -/
def new (config : Config) : Arbiter where
  config := config
  light := none
  directory := Directory.empty
  occupancy := Occupancy.empty
  display := Display.new config.palette
  window := Window.clear

/-- The owner that the light shows. -/
def winner (a : Arbiter) : Option UserRecord := a.display.winner

/-- Does the light show that somebody is near? -/
def present (a : Arbiter) : Bool := a.display.present

/-- When the waiting outcome falls due. -/
def deadline (a : Arbiter) : Option Time := a.window.deadline

/-! ### Acting on a decision -/

/-- What the light should show if it belongs to the candidate. -/
def scene (a : Arbiter) (candidate : Option UserRecord) : Scene :=
  ⟨candidate, a.occupancy.anyPresent⟩

/-- Give the light to the candidate at once. -/
def commit (a : Arbiter) (candidate : Option UserRecord) : Arbiter × Option Group :=
  let (display, group) := a.display.commit (a.scene candidate)
  ({ a with display := display, window := Window.clear }, group)

/-- Give the light to the candidate at the end of a window that starts now. -/
def postpone (a : Arbiter) (candidate : Option UserRecord) (now : Time) : Arbiter :=
  if a.display.shows (a.scene candidate) then { a with window := Window.clear }
  else { a with window := Window.schedule candidate (now + a.config.debounce) }

/-- Act on the waiting outcome if it is due. -/
def tick (a : Arbiter) (now : Time) : Arbiter × Option Group :=
  match a.window.takeDue now with
  | (some deferral, window) => { a with window := window }.commit deferral.candidate
  | (none, _) => (a, none)

/-! ### Commands -/

/-- Put the light at a position. -/
def setLocation (a : Arbiter) (position : Position) : Arbiter :=
  { a with light := some position }

/-- Who should own the light after a reading: the owner that the light shows may continue. -/
def successor (a : Arbiter) : Option UserRecord :=
  a.directory.resolve a.occupancy { committed := a.winner.map UserRecord.userId }

/-- Take note of a sensor's reading. An arrival counts at once, a departure after a window. -/
def sensorChanged (a : Arbiter) (sensorId : String) (occupied : Bool) (now : Time) :
    Arbiter × Option Group :=
  let a := { a with occupancy := a.occupancy.set sensorId occupied }
  if occupied then a.commit a.successor else (a.postpone a.successor now, none)

/-- The owner of the third tier, who may keep the light over a new directory. -/
def retained (a : Arbiter) : Option String :=
  (a.winner.filter fun r => r.tier = .user3).map UserRecord.userId

/--
Replace the directory. If the light has an owner then a group is written in any case, since the
owner's record may have changed.
-/
def install (a : Arbiter) (directory : Directory) : Arbiter × Option Group :=
  let display := if a.winner.isSome then a.display.forget else a.display
  { a with directory := directory, display := display }.commit
    (directory.resolve a.occupancy { retained := a.retained })

/-- Replace the directory by the one of these records, if they make up one. -/
def reload (a : Arbiter) (records : List UserRecord) : Arbiter × Except Refusal (Option Group) :=
  match Directory.ofRecords records with
  | .error error => (a, .error (.directory error))
  | .ok directory =>
    let (a, group) := a.install directory
    (a, .ok group)

/-- Why a user of the third tier may not take the light over, if so. -/
def incumbentObjection (a : Arbiter) (claimant : UserRecord) : Option ClaimRefusal :=
  match a.winner with
  | none => none
  | some incumbent =>
    if incumbent.tier ≠ .user3 then some (.outranked incumbent.tier)
    else if incumbent.userId = claimant.userId then none
    else
      match a.light with
      | none => some .locationUnset
      | some light =>
        if light.priority incumbent ≤ light.priority claimant then
          some (.incumbentCloser incumbent.userId)
        else none

/-- The record of a user whose claim is accepted, or the reason why it is not. -/
def claimant (a : Arbiter) (userId : String) : Except ClaimRefusal UserRecord :=
  match a.directory.user? userId with
  | none => .error .unknownUser
  | some r =>
    if r.tier ≠ .user3 then .error (.notUser3 r.tier)
    else
      match a.incumbentObjection r with
      | some reason => .error reason
      | none => .ok r

/-- Give the light to a user who asks for it. Whoever asks is present. -/
def claim (a : Arbiter) (userId : String) : Arbiter × Except Refusal (Option Group) :=
  match a.claimant userId with
  | .error reason => (a, .error (.claim userId reason))
  | .ok r =>
    let (a, group) := { a with occupancy := a.occupancy.set r.sensorId true }.commit (some r)
    (a, .ok group)

/-- Carry out a command. -/
def handle (a : Arbiter) (now : Time) : Command → Arbiter × Except Refusal (Option Group)
  | .location position => (a.setLocation position, .ok none)
  | .ownership records => a.reload records
  | .sensorOccupied sensorId occupied =>
    let (a, group) := a.sensorChanged sensorId occupied now
    (a, .ok group)
  | .claim userId => a.claim userId

end Arbiter

end LightArbiter
