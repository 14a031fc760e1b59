import LightArbiter.Wire

/-!
# The service

The program while its input comes. What has come is the source of a wire, and the run on this wire
goes on as long as that decides what happens, so that it makes no difference what is still to come.
Then the service waits for more, until all has come.
-/

namespace LightArbiter

/-- How long it takes until the next signal. -/
def Signal.duration : Signal → Time
  | pause duration => duration
  | _ => 0

namespace Wire

/-- The wire after more signals have come. -/
def feed (w : Wire) (signals : List Signal) : Wire := { w with source := w.source ++ signals }

/-- The time when all signals that have come have passed. -/
def horizon (w : Wire) : Time :=
  w.source.foldl (fun time signal => time + signal.duration) w.clock

/-- Do signals bring a line, the deadline or a fault, whatever comes after them? -/
def decides (deadline : Option Time) (w : Wire) : List Signal → Bool
  | [] => false
  | .byte b :: signals =>
    if b = newline then
      (lineOfBuffer? (w.gather b).buffer).isSome || decides deadline w.clear signals
    else decides deadline (w.gather b) signals
  | .pause duration :: signals =>
    let later := { w with clock := w.clock + duration }
    later.isDue deadline || decides deadline later signals
  | .fault _ :: _ => true

/-- Is there an input for somebody who waits for a line or for the deadline? -/
def isReady (w : Wire) (deadline : Option Time) : Bool :=
  w.ended || w.isDue deadline || w.decides deadline w.source

end Wire

/-- The run after more signals have come. -/
def Run.feed (r : Run Wire) (signals : List Signal) : Run Wire :=
  { r with channel := r.channel.feed signals }

/-- The program while its input comes. -/
structure Service where
  run : Run Wire
  /-- Has all of the input come? -/
  complete : Bool := false

namespace Service

/-- What the service does next. -/
inductive Move where
  /-- It writes texts and goes on. -/
  | proceed (texts : List String) (next : Run Wire)
  /-- It writes texts and ends. -/
  | stop (texts : List String) (outcome : Except WireFault Unit)
  /-- It waits for more to come. -/
  | await

/-- A service with nothing read yet. -/
def new (config : Config) : Service := { run := ⟨{}, Session.new config⟩ }

/-- The service after more signals have come. -/
def feed (s : Service) (signals : List Signal) : Service := { s with run := s.run.feed signals }

/-- The service after the end of its input. -/
def finish (s : Service) : Service := { s with complete := true }

/-- Can the run take its next step? -/
def isReady (s : Service) : Bool :=
  s.complete || s.run.channel.isReady s.run.session.arbiter.deadline

/-- Let the run take its next step, on a sink of its own, if it can. -/
def move (s : Service) : Move :=
  if s.isReady then
    match (s.run.withSink {}).step with
    | (.ok true, next) => .proceed next.channel.sink.written next
    | (.ok false, last) => .stop last.channel.sink.written (.ok ())
    | (.error fault, last) => .stop last.channel.sink.written (.error fault)
  else .await

theorem remaining_of_proceed {s : Service} {texts : List String} {next : Run Wire}
    (h : s.move = .proceed texts next) : next.remaining < s.run.remaining := by
  rw [move] at h
  split at h
  · split at h
    · rename_i hstep
      obtain ⟨-, rfl⟩ := Move.proceed.inj h
      have hlt := Run.remaining_step hstep
      exact hlt
    · cases h
    · cases h
  · cases h

theorem complete_of_await {s : Service} (h : s.move = .await) : s.complete = false := by
  rw [move] at h
  split at h
  · split at h <;> cases h
  · rename_i hready
    rw [isReady, Bool.or_eq_true, not_or] at hready
    exact Bool.eq_false_iff.2 hready.1

/-- Serve an input that comes in parts: how it ends, and what has been written. -/
def serve (s : Service) (parts : List (List Signal)) : Except WireFault Unit × List String :=
  match h : s.move with
  | .proceed texts next =>
    have := remaining_of_proceed h
    let rest := serve { s with run := next } parts
    (rest.1, texts ++ rest.2)
  | .stop texts outcome => (outcome, texts)
  | .await =>
    have := complete_of_await h
    match parts with
    | [] => serve s.finish []
    | part :: parts => serve (s.feed part) parts
termination_by (if s.complete then 0 else parts.length + 1, s.run.remaining)
decreasing_by
  · exact Prod.Lex.right _ this
  · exact Prod.Lex.left _ _ (by simp [finish, this])
  · exact Prod.Lex.left _ _ (by simp [feed, this])

end Service

end LightArbiter
