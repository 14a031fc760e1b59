import LightArbiter.LogFilter
import LightArbiter.Options
import LightArbiter.Service

/-!
# The program

The program reads its options, then commands from its input up to the end, and writes groups to its
output. Here it is run on an input that is there from the start.
-/

namespace LightArbiter

/-- How the program ends: its exit code and what it has written. -/
structure ProgramResult where
  exitCode : Nat
  output : String
deriving DecidableEq, Repr

namespace Program

/-- The settings of the program, or the exit code with which it ends before it reads anything. -/
def start (arguments : List String) : Except Nat Options :=
  match Options.ofArguments arguments with
  | .error usage => .error usage.exitCode
  | .ok options =>
    match LogFilter.check options.log with
    | .error flaw => .error flaw.exitCode
    | .ok () => .ok options

/-- How the program ends when it has served its input. -/
def ending (outcome : Except WireFault Unit) (texts : List String) : ProgramResult :=
  let exitCode := match outcome with
    | .ok () => 0
    | .error _ => 1
  ⟨exitCode, String.join texts⟩

/-- Run the program on an input. -/
def run (arguments : List String) (input : List UInt8) : ProgramResult :=
  match start arguments with
  | .error exitCode => ⟨exitCode, ""⟩
  | .ok options =>
    let (outcome, texts) := (Service.new options.config).serve [input.map Signal.byte]
    ending outcome texts

end Program

end LightArbiter
