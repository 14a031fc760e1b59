import LightArbiter.Rehearsal

/-!
# Scenarios

A scenario is a script that is written with a cursor: lines are placed at the cursor, and the cursor
only moves forward. It is run in a rehearsal until nothing is left to do; what came of it is then
checked.
-/

namespace LightArbiter

/-- A named script with the settings of its arbiter. -/
structure Scenario where
  name : String
  config : Config := {}
  script : List Cue := []
  cursor : Time := 0

/-- What came of a scenario. -/
structure Outcome where
  arbiter : Arbiter
  emissions : List Emission
  tally : Tally
  finishedAt : Time
deriving DecidableEq

namespace Scenario

/-- Place a line at the cursor. -/
def line (s : Scenario) (text : String) : Scenario :=
  { s with script := s.script ++ [⟨s.cursor, text⟩] }

/-- Move the cursor forward by a duration. -/
def wait (s : Scenario) (duration : Time) : Scenario :=
  { s with cursor := s.cursor + duration }

/-- Move the cursor to a time, unless it is there already, and place a line. -/
def lineAt (s : Scenario) (time : Time) (text : String) : Scenario :=
  { s with cursor := max s.cursor time }.line text

/-- Add a line with a time of its own, and move the cursor there. -/
def cue (s : Scenario) (cue : Cue) : Scenario :=
  { s with cursor := max s.cursor cue.time, script := s.script ++ [cue] }

/-- Add several lines with times of their own. -/
def cues (s : Scenario) (cues : List Cue) : Scenario :=
  cues.foldl cue s

/-- Rehearse the script up to its end. -/
def run (s : Scenario) : Outcome :=
  let start : Run Rehearsal :=
    { channel := Rehearsal.ofScript s.script, session := Session.new s.config }
  let final := start.run.2
  { arbiter := final.session.arbiter
    emissions := final.channel.emissions
    tally := final.session.tally
    finishedAt := final.channel.clock }

end Scenario

/-! ### Outcomes -/

namespace Outcome

/-- The id of the owner in the end. -/
def winnerId (o : Outcome) : Option String :=
  o.arbiter.winner.map UserRecord.userId

/-- Everything that was written, line by line. -/
def outputLines (o : Outcome) : List String :=
  o.emissions.flatMap fun emission => emission.group.map Directive.text

/-- The light state that a group sets. -/
def stateOf? (group : Group) : Option LightState :=
  group.findSome? fun
    | .state state => some state
    | _ => none

/-- The light state of each group that sets one, with its time. -/
def stateChanges (o : Outcome) : List (Time × LightState) :=
  o.emissions.filterMap fun emission =>
    (stateOf? emission.group).map fun state => (emission.time, state)

/-- The groups that were written from a time on and before another. -/
def emissionsBetween (o : Outcome) (start stop : Time) : List Emission :=
  o.emissions.filter fun emission => start ≤ emission.time && emission.time < stop

/-- Was the light freed from a time on and before another? -/
def freedBetween (o : Outcome) (start stop : Time) : Bool :=
  o.stateChanges.any fun (time, state) => state = .free && start ≤ time && time < stop

end Outcome

end LightArbiter
