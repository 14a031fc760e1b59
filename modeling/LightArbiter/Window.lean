import LightArbiter.UserRecord

/-!
# The departure window

A departure is not acted upon at once: its outcome waits for the end of a window, and is forgotten
if something else is decided before. There is room for one waiting outcome.
-/

namespace LightArbiter

/-- Milliseconds after the start of the input. -/
abbrev Time := Nat

/-- An outcome that waits: who is then to own the light, and from when on. -/
structure Deferral where
  candidate : Option UserRecord
  deadline : Time
deriving DecidableEq

/-- The place for a waiting outcome. -/
structure Window where
  pending : Option Deferral := none
deriving DecidableEq

namespace Window

/-- When the waiting outcome falls due. -/
def deadline (w : Window) : Option Time :=
  w.pending.map Deferral.deadline

/-- Let an outcome wait, instead of any other. -/
def schedule (candidate : Option UserRecord) (deadline : Time) : Window :=
  ⟨some ⟨candidate, deadline⟩⟩

/-- Nothing waits. -/
def clear : Window := ⟨none⟩

/-- The waiting outcome if it is due, which then waits no longer. -/
def takeDue (w : Window) (now : Time) : Option Deferral × Window :=
  match w.pending with
  | some deferral => if deferral.deadline ≤ now then (some deferral, clear) else (none, w)
  | none => (none, w)

end Window

end LightArbiter
