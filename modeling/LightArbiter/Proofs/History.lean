import LightArbiter.Arbiter
import Mathlib.Tactic

/-!
# Histories of an arbiter

An arbiter is called to let the time pass or to carry out a command. A history is a list of such
calls, in any order and at any times. `Effect` says once what a call does, with one constructor for
each way it may go; what holds after every history is proved from it.
-/

namespace LightArbiter

/-- A call to an arbiter. -/
inductive Call where
  | tick (now : Time)
  | handle (now : Time) (command : Command)
deriving DecidableEq

/-- When the call happens. -/
def Call.time : Call → Time
  | tick now => now
  | handle now _ => now

/-- The calls happen one after the other, some perhaps at the same time. -/
def InOrder (calls : List Call) : Prop :=
  calls.Pairwise fun call later => call.time ≤ later.time

instance (calls : List Call) : Decidable (InOrder calls) :=
  inferInstanceAs (Decidable (List.Pairwise _ _))

/-- Every command comes directly after a tick at its own time. -/
def Punctual : List Call → Prop
  | [] => True
  | .tick now :: .handle time _ :: calls => now = time ∧ Punctual calls
  | .tick _ :: calls => Punctual calls
  | .handle _ _ :: _ => False

namespace Arbiter

variable {config : Config} {a b : Arbiter} {call : Call} {calls later : List Call}

/-- What a call does, and what it answers. -/
def answer (a : Arbiter) : Call → Arbiter × Except Refusal (Option Group)
  | .tick now => ((a.tick now).1, .ok (a.tick now).2)
  | .handle now command => a.handle now command

/-- The arbiter after a call. -/
def after (a : Arbiter) (call : Call) : Arbiter := (a.answer call).1

/-- Is the call not refused? -/
def Accepts (a : Arbiter) (call : Call) : Prop :=
  ∃ group, (a.answer call).2 = .ok group

/-- The arbiter after several calls. -/
def run (a : Arbiter) (calls : List Call) : Arbiter := calls.foldl after a

@[simp] lemma run_nil : a.run [] = a := rfl

@[simp] lemma run_cons : a.run (call :: calls) = (a.after call).run calls := rfl

@[simp] lemma run_append : a.run (calls ++ later) = (a.run calls).run later :=
  List.foldl_append

/-- What holds at first, and is kept by every call, holds after every history. -/
lemma run_invariant {P : Arbiter → Prop} (calls : List Call) (initial : P a)
    (step : ∀ b call, P b → P (b.after call)) : P (a.run calls) := by
  induction calls generalizing a with
  | nil => exact initial
  | cons call calls ih => exact ih (step a call initial)

/-! ### What a call does -/

/-- The arbiter when a sensor's reading is noted and nothing has come of it yet. -/
def noting (a : Arbiter) (sensorId : String) (occupied : Bool) : Arbiter :=
  { a with occupancy := a.occupancy.set sensorId occupied }

/-- The arbiter when the directory is replaced and nothing has come of it yet. -/
def renewing (a : Arbiter) (directory : Directory) : Arbiter :=
  { a with
    directory := directory
    display := if a.winner.isSome then a.display.forget else a.display }

/-- The arbiter when the waiting outcome is taken and nothing has come of it yet. -/
def releasing (a : Arbiter) : Arbiter := { a with window := Window.clear }

/-- Is nothing due? -/
def Quiet (a : Arbiter) (now : Time) : Prop :=
  ∀ deferral, a.window.pending = some deferral → now < deferral.deadline

lemma not_quiet {now : Time} :
    ¬a.Quiet now ↔ ∃ deferral, a.window.pending = some deferral ∧ deferral.deadline ≤ now := by
  simp [Quiet]

lemma tick_of_due {now : Time} {deferral : Deferral} (hp : a.window.pending = some deferral)
    (hdue : deferral.deadline ≤ now) : a.tick now = a.releasing.commit deferral.candidate := by
  simp only [tick, Window.takeDue, hp, hdue, if_true]
  rfl

lemma tick_of_early {now : Time} (hearly : a.Quiet now) : a.tick now = (a, none) := by
  cases hp : a.window.pending with
  | none => simp [tick, Window.takeDue, hp]
  | some deferral => simp [tick, Window.takeDue, hp, Nat.not_le.mpr (hearly deferral hp)]

/-- What a call does to an arbiter, and what it answers. -/
inductive Effect (a : Arbiter) : Call → Arbiter → Except Refusal (Option Group) → Prop where
  /-- No outcome is due. -/
  | wait {now : Time}
      (early : ∀ deferral, a.window.pending = some deferral → now < deferral.deadline) :
      Effect a (.tick now) a (.ok none)
  /-- The waiting outcome is due. -/
  | expire {now : Time} {deferral : Deferral} (pending : a.window.pending = some deferral)
      (due : deferral.deadline ≤ now) :
      Effect a (.tick now) (a.releasing.commit deferral.candidate).1
        (.ok (a.releasing.commit deferral.candidate).2)
  | place {now : Time} {position : Position} :
      Effect a (.handle now (.location position)) (a.setLocation position) (.ok none)
  | refuse {now : Time} {command : Command} {refusal : Refusal}
      (refused : (a.handle now command).2 = .error refusal) :
      Effect a (.handle now command) a (.error refusal)
  | install {now : Time} {records : List UserRecord} {directory : Directory}
      (made : Directory.ofRecords records = .ok directory) :
      Effect a (.handle now (.ownership records))
        ((a.renewing directory).commit
          (directory.resolve a.occupancy { retained := a.retained })).1
        (.ok ((a.renewing directory).commit
          (directory.resolve a.occupancy { retained := a.retained })).2)
  | arrive {now : Time} {sensorId : String} :
      Effect a (.handle now (.sensorOccupied sensorId true))
        ((a.noting sensorId true).commit (a.noting sensorId true).successor).1
        (.ok ((a.noting sensorId true).commit (a.noting sensorId true).successor).2)
  | depart {now : Time} {sensorId : String} :
      Effect a (.handle now (.sensorOccupied sensorId false))
        ((a.noting sensorId false).postpone (a.noting sensorId false).successor now) (.ok none)
  | grant {now : Time} {userId : String} {r : UserRecord} (granted : a.claimant userId = .ok r) :
      Effect a (.handle now (.claim userId)) ((a.noting r.sensorId true).commit (some r)).1
        (.ok ((a.noting r.sensorId true).commit (some r)).2)

/-- `Effect` says what every call does. -/
lemma effect_answer (a : Arbiter) (call : Call) :
    Effect a call (a.answer call).1 (a.answer call).2 := by
  cases call with
  | tick now =>
    by_cases hquiet : a.Quiet now
    · simp only [answer, tick_of_early hquiet]
      exact .wait hquiet
    · obtain ⟨deferral, hp, hdue⟩ := not_quiet.mp hquiet
      simp only [answer, tick_of_due hp hdue]
      exact .expire hp hdue
  | handle now command =>
    cases command with
    | location position => exact .place
    | ownership records =>
      simp only [answer, handle, reload]
      cases hd : Directory.ofRecords records with
      | error error => exact .refuse (by simp [handle, reload, hd])
      | ok directory => exact .install hd
    | sensorOccupied sensorId occupied =>
      cases occupied with
      | false => exact .depart
      | true => exact .arrive
    | claim userId =>
      simp only [answer, handle, claim]
      cases hr : a.claimant userId with
      | error reason => exact .refuse (by simp [handle, claim, hr])
      | ok r => exact .grant hr

lemma effect_after (a : Arbiter) (call : Call) :
    Effect a call (a.after call) (a.answer call).2 :=
  effect_answer a call

lemma answer_arrival (a : Arbiter) (now : Time) (sensorId : String) :
    a.answer (.handle now (.sensorOccupied sensorId true)) =
      (((a.noting sensorId true).commit (a.noting sensorId true).successor).1,
        .ok ((a.noting sensorId true).commit (a.noting sensorId true).successor).2) := rfl

lemma answer_departure (a : Arbiter) (now : Time) (sensorId : String) :
    a.answer (.handle now (.sensorOccupied sensorId false)) =
      ((a.noting sensorId false).postpone (a.noting sensorId false).successor now, .ok none) := rfl

/-! ### What no call changes -/

variable {answer : Except Refusal (Option Group)}

lemma palette_commit {candidate : Option UserRecord} :
    (a.commit candidate).1.display.palette = a.display.palette := by
  simp only [commit, Display.commit]
  split_ifs <;> rfl

lemma palette_renewing {directory : Directory} :
    (a.renewing directory).display.palette = a.display.palette := by
  simp only [renewing]
  split_ifs <;> rfl

/-- Letting an outcome wait changes nothing but the window. -/
lemma postpone_window {candidate : Option UserRecord} {now : Time} :
    a.postpone candidate now = { a with window := (a.postpone candidate now).window } := by
  rw [postpone]
  split_ifs <;> rfl

lemma Effect.config_eq (e : Effect a call b answer) : b.config = a.config := by
  cases e with
  | depart =>
    rw [postpone_window]
    rfl
  | _ => rfl

lemma Effect.palette_eq (e : Effect a call b answer) :
    b.display.palette = a.display.palette := by
  cases e with
  | wait _ | place | refuse _ => rfl
  | expire _ _ | arrive | grant _ => exact palette_commit
  | install _ => exact palette_commit.trans palette_renewing
  | depart =>
    rw [postpone_window]
    rfl

lemma config_run (config : Config) (calls : List Call) :
    ((new config).run calls).config = config := by
  refine run_invariant (P := fun b => b.config = config) calls rfl ?_
  intro b call h
  exact (effect_after b call).config_eq.trans h

lemma palette_run (config : Config) (calls : List Call) :
    ((new config).run calls).display.palette = config.palette := by
  refine run_invariant (P := fun b => b.display.palette = config.palette) calls rfl ?_
  intro b call h
  exact (effect_after b call).palette_eq.trans h

end Arbiter

end LightArbiter
