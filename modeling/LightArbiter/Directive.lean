import LightArbiter.Color
import LightArbiter.Tier

/-!
# Directives

What is written to the lamp: lines of the form `set <key> <value>`, several of them in a group that
is written at once.
-/

namespace LightArbiter

/-- Whether the light belongs to a user. -/
inductive LightState where
  | used
  | free
deriving DecidableEq, Repr

/-- The name of the state in a directive. -/
def LightState.name : LightState → String
  | used => "USED"
  | free => "FREE"

/-- One line of output. -/
inductive Directive where
  | color (color : Color)
  | lowLight (on : Bool)
  | userId (id : String)
  | state (state : LightState)
  | tier (tier : Tier)
deriving DecidableEq, Repr

/-- Directives that are written together. -/
abbrev Group := List Directive

/-- The spelling of a truth value in lines and directives. -/
def boolText (b : Bool) : String :=
  if b then "true" else "false"

namespace Directive

/-- The line without the newline at its end. -/
def text : Directive → String
  | color c => "set color " ++ c.text
  | lowLight on => "set lowlight " ++ boolText on
  | userId id => "set userid " ++ id
  | state s => "set state " ++ s.name
  | tier t => "set usertype " ++ t.name

/-- The lines of a group, each ended by a newline. -/
def render : Group → String
  | [] => ""
  | directive :: group => directive.text ++ "\n" ++ render group

@[simp] theorem render_nil : render [] = "" := rfl

@[simp] theorem render_cons (directive : Directive) (group : Group) :
    render (directive :: group) = directive.text ++ "\n" ++ render group := rfl

end Directive

end LightArbiter
