import LightArbiter.Program

/-!
# The command line

Reads commands from the standard input and writes groups to the standard output. This is the outer
layer, which reads, writes and keeps the time: what happens next is decided by the service.
-/

namespace LightArbiter.Main

/-- The explanation of the options. -/
def usageText : String :=
  "Decide who owns a shared smart light, one command per stdin line\n\n" ++
  "Options:\n" ++
  "      --debounce-ms <MS>       How long a departure must last [default: 3000]\n" ++
  "      --ambient-color <COLOR>  Color of a free light while someone is nearby " ++
  "[default: (250, 200, 100)]\n" ++
  "      --log <FILTER>           Log filter [default: info]\n" ++
  "  -h, --help                   Print help\n"

/-- What the loop waits for. -/
inductive Wake where
  /-- The bytes of a line, the last one first; none at the end of the input. -/
  | line (buffer : List UInt8)
  | failed (message : String)
  | timer

/-- What has come with a wake. -/
def Wake.signals : Wake → List Signal
  | line buffer => buffer.reverse.map Signal.byte
  | failed message => [.fault message]
  | timer => []

/-- The clock of a wire, which has started at an epoch. -/
def clock (epoch : Nat) : IO Time := do
  return (← IO.monoMsNow) - epoch

/-- Write texts, each in one piece. -/
def writeAll (output : IO.FS.Stream) (texts : List String) : IO Unit :=
  texts.forM fun text => do
    output.putStr text
    output.flush

/-- Read up to a newline or the end of the input. -/
partial def readLine (input : IO.FS.Stream) (buffer : List UInt8) : IO (List UInt8) := do
  match (← input.read 1).toList with
  | [] => return buffer
  | b :: _ => if b = newline then return b :: buffer else readLine input (b :: buffer)

/-- Start to read a line. -/
def startReading (input : IO.FS.Stream) : IO (Task Wake) := do
  let task ← IO.asTask (readLine input []) Task.Priority.dedicated
  return task.map fun
    | .ok buffer => .line buffer
    | .error error => .failed error.toString

/-- The longest time to sleep at once. -/
def longestNap : Nat := 60000

/-- Sleep up to a time, or for a part of a long wait. -/
def nap (epoch : Nat) (time : Time) : IO Unit := do
  IO.sleep (UInt32.ofNat (min (time - (← clock epoch)) longestNap))

/-- Sleep up to a time. -/
partial def sleepUntil (epoch : Nat) (time : Time) : IO Unit := do
  if (← clock epoch) < time then
    nap epoch time
    sleepUntil epoch time

/-- Wait for what is being read, or for the deadline if there is one. -/
def awaitWake (epoch : Nat) (reading : Task Wake) : Option Time → IO Wake
  | none => IO.wait reading
  | some deadline => do
    let timer ← IO.asTask (nap epoch deadline) Task.Priority.dedicated
    IO.waitAny [reading, timer.map fun _ => .timer] (by simp)

/-- Do what the service does next, until it ends. Nothing is read any more after the end of the
input. -/
partial def serve (input output : IO.FS.Stream) (epoch : Nat) (s : Service)
    (reading : Option (Task Wake)) : IO UInt32 := do
  match s.move, reading with
  | .proceed texts next, _ =>
    sleepUntil epoch next.channel.clock
    writeAll output texts
    serve input output epoch { s with run := next } reading
  | .stop texts outcome, _ =>
    writeAll output texts
    match outcome with
    | .ok () => return 0
    | .error fault =>
      IO.eprintln fault.message
      return 1
  | .await, none => serve input output epoch s.finish none
  | .await, some task =>
    let wake ← awaitWake epoch task s.run.session.arbiter.deadline
    let elapsed := (← clock epoch) - s.run.channel.horizon
    let reading ←
      match wake with
      | .timer => pure reading
      | .failed _ | .line [] => pure none
      | .line _ => some <$> startReading input
    serve input output epoch (s.feed (.pause elapsed :: wake.signals)) reading

/-- Run the program with these settings. -/
def runWith (options : Options) : IO UInt32 := do
  let input ← IO.getStdin
  let output ← IO.getStdout
  let epoch ← IO.monoMsNow
  try
    serve input output epoch (Service.new options.config) (some (← startReading input))
  catch error =>
    IO.eprintln (WireFault.write error.toString).message
    return 1

end LightArbiter.Main

open LightArbiter in
/-- The program. -/
def main (arguments : List String) : IO UInt32 := do
  match Program.start arguments with
  | .ok options => LightArbiter.Main.runWith options
  | .error exitCode =>
    if exitCode = 0 then IO.print LightArbiter.Main.usageText
    else IO.eprintln "bad arguments, see --help"
    return UInt32.ofNat exitCode
