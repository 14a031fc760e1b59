import LightArbiter.Arbiter

/-!
# Command line options

The options are read from left to right and the first problem ends the reading. A value follows its
option as the next argument, unless that starts with a hyphen and something more, or after an equals
sign. A value that stands as an argument of its own is looked at when the next option is met or at
the end.
-/

namespace LightArbiter

/-- The settings of the program. -/
structure Options where
  debounce : Time := 3000
  ambient : Color := Color.warmWhite
  /-- Which log messages are wanted. -/
  log : String := "info"
deriving DecidableEq, Repr

/-- The settings of the arbiter. -/
def Options.config (options : Options) : Config where
  debounce := options.debounce
  palette := { ambient := options.ambient }

/-- Why the arguments are not taken. -/
inductive Usage where
  /-- The value of an option does not have the right form. -/
  | badValue
  /-- An option has no value. -/
  | missingValue
  /-- An argument is no option and no value of one. -/
  | unknownArgument
  /-- An option is given twice. -/
  | repeated
  /-- A value is attached to an option that takes none. -/
  | unneededValue
  /-- Help is asked for. -/
  | help
deriving DecidableEq, Repr

/-- The exit code of a program that is called so: asking for help is no error. -/
def Usage.exitCode : Usage → Nat
  | help => 0
  | _ => 2

/-- The options that take a value. -/
inductive OptionName where
  | debounce
  | ambient
  | log
deriving DecidableEq, Repr

/-- The option of a name after two hyphens. -/
def OptionName.ofChars? (name : List Char) : Option OptionName :=
  if name = "debounce-ms".toList then some .debounce
  else if name = "ambient-color".toList then some .ambient
  else if name = "log".toList then some .log
  else none

namespace Options

/-- A number of milliseconds, below `2 ^ 64`. -/
def milliseconds? (cs : List Char) : Option Time :=
  (Text.natural? cs).filter (· < twoPow 64)

/-- The settings with the value of an option, if it has the right form. -/
def set? (options : Options) (name : OptionName) (value : String) : Option Options :=
  match name with
  | .debounce => (milliseconds? value.toList).map fun debounce => { options with debounce }
  | .ambient => (Color.ofChars? value.toList).map fun ambient => { options with ambient }
  | .log => some { options with log := value }

/-! ### Reading -/

/-- How far the reading has come. -/
structure Progress where
  options : Options := {}
  /-- The options that have got their values. -/
  given : List OptionName := []
  /-- The last option, if its value may still come or has not been looked at. -/
  waiting : Option (OptionName × Option String) := none

/-- Take the value of an option. -/
def Progress.store (p : Progress) (name : OptionName) (value : String) : Except Usage Progress :=
  if name ∈ p.given then .error .repeated
  else
    match p.options.set? name value with
    | some options => .ok { options := options, given := name :: p.given, waiting := none }
    | none => .error .badValue

/-- Look at the value of the option that waits. -/
def Progress.settle (p : Progress) : Except Usage Progress :=
  match p.waiting with
  | none => .ok p
  | some (_, none) => .error .missingValue
  | some (name, some value) => p.store name value

/-- An argument behind two hyphens: a name, perhaps with a value attached. -/
def Progress.readLong (p : Progress) (cs : List Char) : Except Usage Progress := do
  let name := cs.takeWhile (· ≠ '=')
  match OptionName.ofChars? name, cs.dropWhile (· ≠ '=') with
  | some option, [] => return { (← p.settle) with waiting := some (option, none) }
  | some option, _ :: value => (← p.settle).store option (String.ofList value)
  | none, value =>
    if name ≠ "help".toList then .error .unknownArgument
    else if value ≠ [] then .error .unneededValue
    else do
      let _ ← p.settle
      .error .help

/-- An argument without hyphens: the value that is waited for. -/
def Progress.readValue (p : Progress) (value : String) : Except Usage Progress :=
  match p.waiting with
  | some (name, none) => .ok { p with waiting := some (name, some value) }
  | _ => .error .unknownArgument

/-- An argument. -/
def Progress.read (p : Progress) (argument : String) : Except Usage Progress :=
  match argument.toList with
  | '-' :: '-' :: cs => p.readLong cs
  | '-' :: 'h' :: _ => do
    let _ ← p.settle
    .error .help
  | '-' :: _ :: _ => .error .unknownArgument
  | _ => p.readValue argument

/-- The arguments from here on. Nothing may follow two hyphens that stand alone. -/
def Progress.readAll (p : Progress) : List String → Except Usage Options
  | [] => p.settle.map Progress.options
  | argument :: arguments =>
    if argument = "--" then
      if arguments = [] then p.settle.map Progress.options else .error .unknownArgument
    else do (← p.read argument).readAll arguments

/-- The settings that the arguments give. -/
def ofArguments (arguments : List String) : Except Usage Options :=
  ({} : Progress).readAll arguments

end Options

end LightArbiter
