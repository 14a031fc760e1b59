import LightArbiter.Channel

/-!
# Rehearsals

A channel without the outside world: lines are cued for certain times, and the clock jumps to the
next line or to the deadline, whichever comes first. If both come at once then the deadline is
first. Every group is recorded with the time at which it is written.
-/

namespace LightArbiter

/-- A line and the time at which it arrives. -/
structure Cue where
  time : Time
  line : String
deriving DecidableEq, Repr

/-- A group and the time at which it was written. -/
structure Emission where
  time : Time
  group : Group
deriving DecidableEq, Repr

/-- The state of a rehearsal. -/
structure Rehearsal where
  clock : Time := 0
  queue : List Cue := []
  emissions : List Emission := []
deriving DecidableEq, Repr

namespace Rehearsal

/-- Cue a line behind the others. It arrives no earlier than the last of them. -/
def push (s : Rehearsal) (time : Time) (line : String) : Rehearsal :=
  let time := match s.queue.getLast? with
    | some last => max time last.time
    | none => time
  { s with queue := s.queue ++ [⟨time, line⟩] }

/-- Cue several lines. -/
def pushAll (s : Rehearsal) (cues : List Cue) : Rehearsal :=
  cues.foldl (fun s cue => s.push cue.time cue.line) s

/-- The rehearsal of a script. -/
def ofScript (script : List Cue) : Rehearsal :=
  ({} : Rehearsal).pushAll script

/-- Everything that was written, line by line. -/
def outputLines (s : Rehearsal) : List String :=
  s.emissions.flatMap fun emission => emission.group.map Directive.text

/-- Jump to a time, unless it has passed. -/
def advance (s : Rehearsal) (time : Time) : Rehearsal :=
  { s with clock := max s.clock time }

/-- Take the next line, if there is one. -/
def takeLine (s : Rehearsal) : Input × Rehearsal :=
  match s.queue with
  | [] => (.closed, s)
  | cue :: queue => (.line cue.line, { s with queue := queue }.advance cue.time)

/-- Take the next line or jump to the deadline. -/
def receive (s : Rehearsal) : Option Time → Input × Rehearsal
  | none => s.takeLine
  | some deadline =>
    match s.queue.head? with
    | none => (.deadline, s.advance deadline)
    | some cue => if deadline ≤ cue.time then (.deadline, s.advance deadline) else s.takeLine

/-- Record a group. -/
def emit (s : Rehearsal) (group : Group) : Rehearsal :=
  { s with emissions := s.emissions ++ [⟨s.clock, group⟩] }

theorem length_queue_takeLine {s s' : Rehearsal} {text : String}
    (h : s.takeLine = (.line text, s')) : s'.queue.length < s.queue.length := by
  unfold takeLine at h
  split at h
  · simp at h
  · rename_i hq
    simp only [Prod.mk.injEq] at h
    simp [← h.2, hq, advance]

/-- Nothing goes wrong in a rehearsal. -/
instance : Channel Rehearsal Empty where
  now := Rehearsal.clock
  receive s deadline := let (input, s') := s.receive deadline; (.ok input, s')
  emit s group := (.ok (), s.emit group)
  backlog s := s.queue.length
  receive_line {s s' deadline text} h := by
    simp only [Prod.mk.injEq, Except.ok.injEq] at h
    have h : s.receive deadline = (.line text, s') := Prod.ext h.1 h.2
    unfold receive at h
    split at h
    · exact length_queue_takeLine h
    · split at h
      · simp at h
      · split at h
        · simp at h
        · exact length_queue_takeLine h
  receive_deadline {s s' deadline} h := by
    simp only [Prod.mk.injEq, Except.ok.injEq] at h
    have h : s.receive deadline = (.deadline, s') := Prod.ext h.1 h.2
    have no (s s' : Rehearsal) : s.takeLine ≠ (.deadline, s') := by
      unfold takeLine
      split <;> simp
    unfold receive at h
    split at h
    · exact absurd h (no _ _)
    · split at h
      · simp only [Prod.mk.injEq, true_and] at h
        exact h ▸ ⟨Nat.le_refl _, _, rfl, Nat.le_max_right ..⟩
      · split at h
        · simp only [Prod.mk.injEq, true_and] at h
          exact h ▸ ⟨Nat.le_refl _, _, rfl, Nat.le_max_right ..⟩
        · exact absurd h (no _ _)
  backlog_emit _ _ := Nat.le_refl _
  now_emit _ _ := rfl

end Rehearsal

end LightArbiter
