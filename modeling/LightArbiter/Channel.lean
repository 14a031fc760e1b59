import LightArbiter.Session

/-!
# Channels

A channel brings lines in, takes groups out and has a clock. Asked for input, it waits for the next
line or for a deadline, whichever comes first; when there will be no more lines it still waits for
the deadline, and only without one it reports that it is closed. A session on a channel comes to its
end, since every line uses up some of what the channel has yet to bring.
-/

namespace LightArbiter

/-- What a channel has brought. -/
inductive Input where
  | line (text : String)
  | deadline
  | closed
deriving DecidableEq, Repr

/-- A source of lines and a sink of groups with states in `σ` and faults in `ε`. -/
class Channel (σ : Type) (ε : outParam Type) where
  /-- The time now. -/
  now : σ → Time
  /-- Wait for a line or for the deadline. -/
  receive : σ → Option Time → Except ε Input × σ
  /-- Write a group. -/
  emit : σ → Group → Except ε Unit × σ
  /-- A bound on the number of lines that are still to come. -/
  backlog : σ → Nat
  receive_line {c c' : σ} {deadline : Option Time} {text : String} :
    receive c deadline = (.ok (.line text), c') → backlog c' < backlog c
  receive_deadline {c c' : σ} {deadline : Option Time} :
    receive c deadline = (.ok .deadline, c') →
      backlog c' ≤ backlog c ∧ ∃ d, deadline = some d ∧ d ≤ now c'
  backlog_emit (c : σ) (group : Group) : backlog (emit c group).2 ≤ backlog c
  now_emit (c : σ) (group : Group) : now (emit c group).2 = now c

/-- A session on a channel. -/
structure Run (σ : Type) where
  channel : σ
  session : Session

namespace Run

variable {σ ε : Type} [Channel σ ε]

/-- Write groups one after the other, up to a fault, and count those that are written. -/
def emitAll (r : Run σ) : List Group → Except ε Unit × Run σ
  | [] => (.ok (), r)
  | group :: groups =>
    match Channel.emit r.channel group with
    | (.ok (), channel) =>
      emitAll { channel := channel, session := r.session.countEmitted } groups
    | (.error fault, channel) => (.error fault, { r with channel := channel })

/-- Go on with a session after its groups are written. -/
def deliver (channel : σ) (result : Session × List Group) : Except ε Unit × Run σ :=
  emitAll { channel := channel, session := result.1 } result.2

/-- What an input does: is the channel still open? -/
def respond (channel : σ) (session : Session) : Input → Except ε Bool × Run σ
  | .line text =>
    let (outcome, r) := deliver channel (session.takeLine (Channel.now channel) text)
    (outcome.map fun _ => true, r)
  | .deadline =>
    let (outcome, r) := deliver channel (session.tick (Channel.now channel))
    (outcome.map fun _ => true, r)
  | .closed => (.ok false, { channel := channel, session := session })

/-- Take one input and do what it asks for: is the channel still open? -/
def step (r : Run σ) : Except ε Bool × Run σ :=
  match Channel.receive r.channel r.session.arbiter.deadline with
  | (.ok input, channel) => respond channel r.session input
  | (.error fault, channel) => (.error fault, { r with channel := channel })

/-! ### The end of a run -/

/-- A bound on the number of inputs to come: every line may start one window. -/
def remaining (r : Run σ) : Nat :=
  2 * Channel.backlog r.channel + (if r.session.arbiter.deadline.isSome then 1 else 0)

theorem backlog_emitAll (r : Run σ) (groups : List Group) :
    Channel.backlog (emitAll r groups).2.channel ≤ Channel.backlog r.channel := by
  induction groups generalizing r with
  | nil => exact Nat.le_refl _
  | cons group groups ih =>
    have hb := Channel.backlog_emit r.channel group
    unfold emitAll
    split
    · rename_i channel h
      rw [h] at hb
      exact Nat.le_trans (ih _) hb
    · rename_i fault channel h
      rw [h] at hb
      exact hb

theorem arbiter_emitAll (r : Run σ) (groups : List Group) :
    (emitAll r groups).2.session.arbiter = r.session.arbiter := by
  induction groups generalizing r with
  | nil => rfl
  | cons group groups ih =>
    unfold emitAll
    split
    · exact ih _
    · rfl

/-- Once the waiting outcome is due, nothing waits after the time has passed. -/
theorem deadline_tick {a : Arbiter} {now d : Time} (h : a.deadline = some d) (hd : d ≤ now) :
    (a.tick now).1.deadline = none := by
  unfold Arbiter.deadline Window.deadline at h
  rcases hp : a.window.pending with _ | deferral
  · simp [hp] at h
  · simp only [hp, Option.map_some, Option.some.injEq] at h
    simp [Arbiter.tick, Window.takeDue, hp, h, hd, Arbiter.commit, Arbiter.deadline,
      Window.deadline, Window.clear]

/-- Every step after which the channel is open brings the run closer to its end. -/
theorem remaining_step {r r' : Run σ} (h : step r = (.ok true, r')) : r'.remaining < r.remaining := by
  unfold step at h
  split at h
  · rename_i input channel hr
    cases input with
    | line text =>
      have hb := Channel.receive_line hr
      simp only [respond, deliver, Prod.mk.injEq] at h
      have he := backlog_emitAll (ε := ε) ⟨channel, (r.session.takeLine (Channel.now channel) text).1⟩
        (r.session.takeLine (Channel.now channel) text).2
      rw [h.2] at he
      unfold remaining
      have : Channel.backlog r'.channel ≤ Channel.backlog channel := he
      split <;> split <;> omega
    | deadline =>
      obtain ⟨hb, d, hd, hnow⟩ := Channel.receive_deadline hr
      simp only [respond, deliver, Prod.mk.injEq] at h
      have he := backlog_emitAll (ε := ε) ⟨channel, (r.session.tick (Channel.now channel)).1⟩
        (r.session.tick (Channel.now channel)).2
      have ha := arbiter_emitAll (ε := ε) ⟨channel, (r.session.tick (Channel.now channel)).1⟩
        (r.session.tick (Channel.now channel)).2
      rw [h.2] at he ha
      have hnone : r'.session.arbiter.deadline = none := by
        rw [ha]
        exact deadline_tick hd hnow
      have : Channel.backlog r'.channel ≤ Channel.backlog channel := he
      unfold remaining
      rw [hnone, hd]
      simp only [Option.isSome_none, Option.isSome_some, if_true, Bool.false_eq_true, if_false]
      omega
    | closed => simp [respond] at h
  · simp at h

/-- Take inputs until the channel is closed or fails. -/
def run (r : Run σ) : Except ε Unit × Run σ :=
  match h : step r with
  | (.ok true, r') =>
    have := remaining_step h
    run r'
  | (.ok false, r') => (.ok (), r')
  | (.error fault, r') => (.error fault, r')
termination_by r.remaining

end Run

end LightArbiter
