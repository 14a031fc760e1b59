import LightArbiter.Scenario

/-!
# Checks of scenarios

What is expected of the outcome of a scenario, and what is said if it is not so.
-/

namespace LightArbiter

/-- An expectation. -/
inductive Check where
  /-- A user owns the light in the end. -/
  | winnerIs (userId : String)
  /-- Nobody owns the light in the end. -/
  | lightFree
  /-- The light is not freed from a time on and before another. -/
  | neverFreedBetween (start stop : Time)
  /-- Exactly these lines are written. -/
  | outputIs (lines : List String)
  /-- So many groups are written. -/
  | emissionCount (count : Nat)
deriving DecidableEq, Repr

/-! ### Wording -/

/-- The decimals of some thousandths, without zeros at the end. -/
def decimalsOf (thousandths : Nat) : List Char :=
  let digits := [thousandths / 100 % 10, thousandths / 10 % 10, thousandths % 10]
  (digits.reverse.dropWhile (· == 0)).reverse.map Nat.digitChar

/-- A duration in milliseconds below a second and in seconds from there on. -/
def durationText (duration : Time) : String :=
  if duration = 0 then "0ns"
  else if duration < 1000 then duration.repr ++ "ms"
  else
    let decimals := decimalsOf (duration % 1000)
    let point := if decimals.isEmpty then [] else '.' :: decimals
    (duration / 1000).repr ++ String.ofList point ++ "s"

/-- The spelling of a user who may be missing. -/
def optionText : Option String → String
  | none => "None"
  | some text => "Some(" ++ Text.quote text ++ ")"

/-- A list of lines, one below the other. -/
def listText (lines : List String) : String :=
  if lines.isEmpty then "[]"
  else "[\n" ++ String.join (lines.map fun line => "    " ++ Text.quote line ++ ",\n") ++ "]"

/-- What is wrong with the outcome, if the expectation is not met. -/
def Check.failure? (o : Outcome) : Check → Option String
  | winnerIs userId =>
    if o.winnerId = some userId then none
    else some ("expected winner " ++ userId ++ ", got " ++ optionText o.winnerId)
  | lightFree =>
    match o.winnerId with
    | none => none
    | some winner => some ("expected a free light, " ++ winner ++ " owns it")
  | neverFreedBetween start stop =>
    if o.freedBetween start stop then
      some ("light was freed between " ++ durationText start ++ " and " ++ durationText stop)
    else none
  | outputIs lines =>
    if o.outputLines = lines then none
    else
      some ("unexpected output\nexpected: " ++ listText lines ++ "\nactual: " ++
        listText o.outputLines)
  | emissionCount count =>
    if o.emissions.length = count then none
    else
      some ("expected " ++ count.repr ++ " emissions, got " ++ o.emissions.length.repr)

/-- The first expectation that the outcome of a scenario does not meet, in words. -/
def Scenario.failure? (s : Scenario) (checks : List Check) : Option String :=
  (checks.findSome? (Check.failure? s.run)).map fun text =>
    "Scenario \x27" ++ s.name ++ "\x27: " ++ text

end LightArbiter
