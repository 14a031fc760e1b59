import LightArbiter.Arbiter

/-!
# Sessions

A session feeds an arbiter with lines of input and with the passing of time. Before each line the
waiting outcome is acted upon if it is due, so that a window that has ended comes before a line that
arrives at the same time. Bad lines and refused commands are counted and have no other effect.
-/

namespace LightArbiter

/-- What a session has counted. -/
structure Tally where
  /-- Lines that are not blank. -/
  lines : Nat := 0
  /-- Lines that are no command. -/
  unparsable : Nat := 0
  /-- Commands that the arbiter refused. -/
  rejected : Nat := 0
  /-- Groups that were written. -/
  emitted : Nat := 0
deriving DecidableEq, Repr

/-- An arbiter and what has been counted. -/
structure Session where
  arbiter : Arbiter
  tally : Tally
deriving DecidableEq

/-- Does the line hold blanks only? -/
def isBlankLine (line : String) : Bool :=
  (Text.trim line.toList).isEmpty

namespace Session

/-- A session with a new arbiter. -/
def new (config : Config) : Session := ⟨Arbiter.new config, {}⟩

/-- Let the time pass: the groups to write. -/
def tick (s : Session) (now : Time) : Session × List Group :=
  let (arbiter, group) := s.arbiter.tick now
  ({ s with arbiter := arbiter }, group.toList)

/-- Count a line that is not blank. -/
def countLine (s : Session) : Session :=
  { s with tally := { s.tally with lines := s.tally.lines + 1 } }

/-- Count a line that is no command. -/
def countUnparsable (s : Session) : Session :=
  { s with tally := { s.tally with unparsable := s.tally.unparsable + 1 } }

/-- Count a refused command. -/
def countRejected (s : Session) : Session :=
  { s with tally := { s.tally with rejected := s.tally.rejected + 1 } }

/-- Count a group that was written. -/
def countEmitted (s : Session) : Session :=
  { s with tally := { s.tally with emitted := s.tally.emitted + 1 } }

/-- Carry out a command: the groups to write. -/
def handle (s : Session) (now : Time) (command : Command) : Session × List Group :=
  match s.arbiter.handle now command with
  | (arbiter, .ok group) => ({ s with arbiter := arbiter }, group.toList)
  | (arbiter, .error _) => ({ s with arbiter := arbiter }.countRejected, [])

/-- What the text of a line does, once the time has passed: the groups to write. -/
def obey (s : Session) (now : Time) (line : String) : Session × List Group :=
  match Command.ofLine line with
  | .ok command => s.handle now command
  | .error _ => (s.countUnparsable, [])

/-- Take a line: the groups to write, in order. -/
def takeLine (s : Session) (now : Time) (line : String) : Session × List Group :=
  if isBlankLine line then (s, [])
  else
    let (s, first) := s.countLine.tick now
    let (s, second) := s.obey now line
    (s, first ++ second)

end Session

end LightArbiter
