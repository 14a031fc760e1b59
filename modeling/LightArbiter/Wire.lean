import LightArbiter.Channel

/-!
# Wires

A channel over bytes. The source is a list of signals: bytes, pauses and reads that fail. Bytes are
gathered up to a newline; a deadline or a fault on the way leaves what has been gathered where it is.
The clock moves by waiting only. A group is written in one piece and flushed before anything else
happens.
-/

namespace LightArbiter

/-- What the source of a wire does next. -/
inductive Signal where
  /-- A byte that can be read. -/
  | byte (b : UInt8)
  /-- Nothing to read for so long after somebody waits for it. -/
  | pause (duration : Time)
  /-- A read that fails. -/
  | fault (text : String)
deriving DecidableEq, Repr

/-- What goes wrong on a wire. -/
inductive WireFault where
  | read (text : String)
  | write (text : String)
deriving DecidableEq, Repr

/-- The wording of the fault. -/
def WireFault.message : WireFault → String
  | read text => "failed to read input: " ++ text
  | write text => "failed to write directives: " ++ text

/-- Where a wire writes to: what has been written and flushed, and what is going to fail. -/
structure Sink where
  written : List String := []
  flushes : Nat := 0
  /-- The number of the write that fails. -/
  failingWrite : Option Nat := none
  /-- The number of the flush that fails. -/
  failingFlush : Option Nat := none
deriving DecidableEq, Repr

/-- Write a text and flush it. -/
def Sink.put (s : Sink) (text : String) : Except WireFault Unit × Sink :=
  if s.failingWrite = some s.written.length then (.error (.write "actuator gone"), s)
  else
    let s := { s with written := s.written ++ [text] }
    if s.failingFlush = some s.flushes then (.error (.write "flush failed"), s)
    else (.ok (), { s with flushes := s.flushes + 1 })

/-- The state of a wire. -/
structure Wire where
  clock : Time := 0
  source : List Signal := []
  /-- The bytes of the line that is being read, the last one first. -/
  buffer : List UInt8 := []
  /-- Has the end of the source been seen? -/
  ended : Bool := false
  sink : Sink := {}
deriving DecidableEq, Repr

/-- The wire with another sink. -/
def Wire.withSink (w : Wire) (s : Sink) : Wire := { w with sink := s }

/-- The run with another sink. -/
def Run.withSink (r : Run Wire) (s : Sink) : Run Wire := ⟨r.channel.withSink s, r.session⟩

/-! ### Lines -/

/-- The code of a newline. -/
def newline : UInt8 := 10

/-- The code of a carriage return. -/
def carriageReturn : UInt8 := 13

/-- The bytes without a certain first one. -/
def dropByte (b : UInt8) : List UInt8 → List UInt8
  | c :: bytes => if c = b then bytes else c :: bytes
  | [] => []

/-- The text of bytes, unless they are not UTF-8. -/
def textOfBytes? (bytes : List UInt8) : Option String :=
  String.fromUTF8? bytes.toByteArray

/-- The line of a buffer: its text without a newline and then a carriage return at its end. -/
def lineOfBuffer? (buffer : List UInt8) : Option String :=
  textOfBytes? (dropByte carriageReturn (dropByte newline buffer)).reverse

namespace Wire

/-! ### Receiving -/

/-- What is received once the source has ended: the deadline, or that the wire is closed. -/
def drain (w : Wire) : Option Time → Input × Wire
  | some deadline => (.deadline, { w with clock := max w.clock deadline })
  | none => (.closed, w)

/-- An input that comes without a fault. -/
def bring (p : Input × Wire) : Except WireFault Input × Wire := (.ok p.1, p.2)

/-- The wire after a byte. -/
def gather (w : Wire) (b : UInt8) : Wire := { w with buffer := b :: w.buffer }

/-- The wire with an empty buffer. -/
def clear (w : Wire) : Wire := { w with buffer := [] }

/-- The wire at the end of its source. -/
def finish (w : Wire) : Wire := { w with source := [], ended := true }

/--
The last input before the source has ended for good: the line in the buffer, if there is one, and
otherwise what is received afterwards.
-/
def close (w : Wire) (deadline : Option Time) : Input × Wire :=
  match w.buffer, lineOfBuffer? w.buffer with
  | _ :: _, some text => (.line text, w.finish.clear)
  | _, _ => w.finish.clear.drain deadline

/--
Read on until a line is complete or the deadline is reached. `fresh` tells whether the current read
has brought a byte: only a read that has not takes note of the end of the source. A line that is not
UTF-8 is passed over.
-/
def poll (deadline : Option Time) (w : Wire) (fresh : Bool) :
    List Signal → Except WireFault Input × Wire
  | [] =>
    if fresh then
      match lineOfBuffer? w.buffer with
      | some text => (.ok (.line text), { w.clear with source := [] })
      | none => bring (w.clear.close deadline)
    else bring (w.close deadline)
  | .byte b :: signals =>
    if b = newline then
      match lineOfBuffer? (w.gather b).buffer with
      | some text => (.ok (.line text), { w.clear with source := signals })
      | none => poll deadline w.clear false signals
    else poll deadline (w.gather b) true signals
  | .pause duration :: signals =>
    match deadline with
    | some d =>
      if d ≤ w.clock + duration then
        (.ok .deadline,
          { w with clock := d, source := .pause (w.clock + duration - d) :: signals })
      else poll deadline { w with clock := w.clock + duration } fresh signals
    | none => poll deadline { w with clock := w.clock + duration } fresh signals
  | .fault text :: signals => (.error (.read text), { w with source := signals })

/-- Has the deadline come? -/
def isDue (w : Wire) : Option Time → Bool
  | some deadline => deadline ≤ w.clock
  | none => false

/-- Wait for a line or for the deadline. A deadline that has come is reported before any read. -/
def receive (w : Wire) (deadline : Option Time) : Except WireFault Input × Wire :=
  if w.ended then bring (w.drain deadline)
  else if w.isDue deadline then (.ok .deadline, w)
  else w.poll deadline false w.source

/-- Write a group in one piece. -/
def emit (w : Wire) (group : Group) : Except WireFault Unit × Wire :=
  let (outcome, sink) := w.sink.put (Directive.render group)
  (outcome, { w with sink := sink })

/-! ### Wires as channels -/

/-- A bound on the number of lines to come: every one takes a signal, or the end of the source. -/
def backlog (w : Wire) : Nat :=
  w.source.length + (if w.ended then 0 else 1)

theorem close_line {w w' : Wire} {deadline : Option Time} {text : String}
    (h : w.close deadline = (.line text, w')) : w'.backlog = 0 := by
  unfold close at h
  split at h
  · simp only [Prod.mk.injEq] at h
    simp [← h.2, backlog, clear, finish]
  · unfold drain at h
    split at h <;> simp at h

theorem close_deadline {w w' : Wire} {deadline : Option Time}
    (h : w.close deadline = (.deadline, w')) :
    w'.backlog = 0 ∧ ∃ d, deadline = some d ∧ d ≤ w'.clock := by
  unfold close at h
  split at h
  · simp at h
  · unfold drain at h
    split at h
    · simp only [Prod.mk.injEq, true_and] at h
      exact h ▸ ⟨rfl, _, rfl, Nat.le_max_right ..⟩
    · simp at h

theorem poll_line {deadline : Option Time} {w w' : Wire} {fresh : Bool} {signals : List Signal}
    {text : String} (hw : w.ended = false)
    (h : poll deadline w fresh signals = (.ok (.line text), w')) :
    w'.backlog + (if fresh then 0 else 1) ≤ signals.length + 1 := by
  induction signals generalizing w fresh with
  | nil =>
    unfold poll at h
    split at h
    · split at h
      · simp only [Prod.mk.injEq] at h
        simp [← h.2, backlog, clear, *]
      · simp only [bring, Prod.mk.injEq, Except.ok.injEq] at h
        have := close_line (Prod.ext h.1 h.2)
        simp_all
    · simp only [bring, Prod.mk.injEq, Except.ok.injEq] at h
      have := close_line (Prod.ext h.1 h.2)
      simp_all
  | cons signal signals ih =>
    cases signal with
    | byte b =>
      unfold poll at h
      split at h
      · split at h
        · simp only [Prod.mk.injEq] at h
          cases fresh <;> simp [← h.2, backlog, clear, hw]
        · have := ih (w := w.clear) hw h
          simp only [List.length_cons]
          split <;> simp at this <;> omega
      · have := ih (w := w.gather b) hw h
        simp only [List.length_cons]
        split <;> simp at this <;> omega
    | pause duration =>
      unfold poll at h
      split at h
      · split at h
        · simp at h
        · have := ih (w := { w with clock := w.clock + duration }) hw h
          simp only [List.length_cons]
          omega
      · have := ih (w := { w with clock := w.clock + duration }) hw h
        simp only [List.length_cons]
        omega
    | fault text => simp [poll] at h

theorem poll_deadline {deadline : Option Time} {w w' : Wire} {fresh : Bool}
    {signals : List Signal} (hw : w.ended = false)
    (h : poll deadline w fresh signals = (.ok .deadline, w')) :
    w'.backlog ≤ signals.length + 1 ∧ ∃ d, deadline = some d ∧ d ≤ w'.clock := by
  induction signals generalizing w fresh with
  | nil =>
    unfold poll at h
    split at h
    · split at h
      · simp at h
      · simp only [bring, Prod.mk.injEq, Except.ok.injEq] at h
        obtain ⟨hb, hd⟩ := close_deadline (Prod.ext h.1 h.2)
        exact ⟨by simp_all, hd⟩
    · simp only [bring, Prod.mk.injEq, Except.ok.injEq] at h
      obtain ⟨hb, hd⟩ := close_deadline (Prod.ext h.1 h.2)
      exact ⟨by simp_all, hd⟩
  | cons signal signals ih =>
    cases signal with
    | byte b =>
      unfold poll at h
      split at h
      · split at h
        · simp at h
        · obtain ⟨hb, hd⟩ := ih (w := w.clear) hw h
          exact ⟨by simp only [List.length_cons]; omega, hd⟩
      · obtain ⟨hb, hd⟩ := ih (w := w.gather b) hw h
        exact ⟨by simp only [List.length_cons]; omega, hd⟩
    | pause duration =>
      unfold poll at h
      split at h
      · split at h
        · simp only [Prod.mk.injEq, true_and] at h
          refine ⟨?_, _, rfl, ?_⟩
          · simp [← h, backlog, hw]
          · simp [← h]
        · obtain ⟨hb, hd⟩ := ih (w := { w with clock := w.clock + duration }) hw h
          exact ⟨by simp only [List.length_cons]; omega, hd⟩
      · obtain ⟨hb, hd⟩ := ih (w := { w with clock := w.clock + duration }) hw h
        exact ⟨by simp only [List.length_cons]; omega, hd⟩
    | fault text => simp [poll] at h

instance : Channel Wire WireFault where
  now := Wire.clock
  receive := Wire.receive
  emit := Wire.emit
  backlog := Wire.backlog
  receive_line {w w' deadline text} h := by
    unfold receive at h
    split at h
    · simp only [bring, drain] at h
      split at h <;> simp at h
    · rename_i hw
      have hw : w.ended = false := by simpa using hw
      split at h
      · simp at h
      · have := poll_line hw h
        simp only [Bool.false_eq_true, if_false] at this
        simp only [backlog, hw] at this ⊢
        simp only [Bool.false_eq_true, if_false]
        omega
  receive_deadline {w w' deadline} h := by
    unfold receive at h
    split at h
    · simp only [bring, drain] at h
      split at h
      · simp only [Prod.mk.injEq, true_and] at h
        exact h ▸ ⟨Nat.le_refl _, _, rfl, Nat.le_max_right ..⟩
      · simp at h
    · rename_i hw
      have hw : w.ended = false := by simpa using hw
      split at h
      · rename_i hd
        unfold isDue at hd
        split at hd
        · simp only [Prod.mk.injEq, true_and] at h
          refine ⟨by simp [← h], _, rfl, ?_⟩
          simpa [← h] using hd
        · simp at hd
      · obtain ⟨hb, hd⟩ := poll_deadline hw h
        refine ⟨?_, hd⟩
        simp only [backlog, hw, Bool.false_eq_true, if_false] at hb ⊢
        exact hb
  backlog_emit _ _ := Nat.le_refl _
  now_emit _ _ := rfl

end Wire

end LightArbiter
