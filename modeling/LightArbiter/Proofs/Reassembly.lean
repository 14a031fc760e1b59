import LightArbiter.Proofs.Pieces
import LightArbiter.Wire

/-!
# Lines out of bytes

A wire gathers bytes that come in any portions, with pauses and failing reads anywhere between them,
while whoever asks for input may give up at a deadline in the middle of a line. The lines that come
out are those of the byte stream as a whole: what has been gathered and what is still to come make
up the same lines before and after every request.
-/

namespace LightArbiter

/-! ### The lines of a byte stream -/

/-- The line that a piece of a byte stream is, unless it is not UTF-8: its text without a newline
and then a carriage return at its end. -/
def lineOfPiece? (piece : List UInt8) : Option String :=
  textOfBytes? (dropEnd carriageReturn (dropEnd newline piece))

/-- The lines of a byte stream, which is cut after every newline. -/
def linesOfBytes (bytes : List UInt8) : List String :=
  (cutAfter newline bytes).filterMap lineOfPiece?

/-- The byte that a signal brings. -/
def Signal.byte? : Signal → Option UInt8
  | .byte b => some b
  | .pause _ => none
  | .fault _ => none

/-- The byte stream that signals bring, whatever comes between the bytes. -/
def bytesIn (signals : List Signal) : List UInt8 := signals.filterMap Signal.byte?

/-- The text of the line that is received. -/
def textOf? : Except WireFault Input → Option String
  | .ok (.line text) => some text
  | .ok .deadline => none
  | .ok .closed => none
  | .error _ => none

variable {bytes buffer : List UInt8} {signals rest : List Signal} {b : UInt8}

@[simp] lemma linesOfBytes_nil : linesOfBytes [] = [] := rfl

@[simp] lemma bytesIn_nil : bytesIn [] = [] := rfl

@[simp] lemma bytesIn_byte : bytesIn (.byte b :: rest) = b :: bytesIn rest := rfl

@[simp] lemma bytesIn_pause {duration : Time} :
    bytesIn (.pause duration :: rest) = bytesIn rest := rfl

@[simp] lemma bytesIn_fault {text : String} : bytesIn (.fault text :: rest) = bytesIn rest := rfl

lemma reverse_dropByte (b : UInt8) (bytes : List UInt8) :
    (dropByte b bytes).reverse = dropEnd b bytes.reverse := by
  cases bytes with
  | nil => rfl
  | cons c bytes =>
    by_cases h : c = b <;> simp [dropByte, dropEnd, h]

/-- The buffer holds its piece from the end to the start. -/
lemma lineOfBuffer?_eq (buffer : List UInt8) :
    lineOfBuffer? buffer = lineOfPiece? buffer.reverse := by
  rw [lineOfBuffer?, lineOfPiece?, reverse_dropByte, reverse_dropByte]

lemma linesOfBytes_append_newline (h : newline ∉ buffer) (bytes : List UInt8) :
    linesOfBytes (buffer.reverse ++ newline :: bytes) =
      (lineOfBuffer? (newline :: buffer)).toList ++ linesOfBytes bytes := by
  rw [linesOfBytes, cutAfter_append_mark (by simpa using h), lineOfBuffer?_eq, List.reverse_cons]
  cases hline : lineOfPiece? (buffer.reverse ++ [newline]) <;> simp [linesOfBytes, hline]

lemma linesOfBytes_of_notMem (h : newline ∉ buffer) (hne : buffer ≠ []) :
    linesOfBytes buffer.reverse = (lineOfBuffer? buffer).toList := by
  rw [linesOfBytes, cutAfter_of_notMem (by simpa using h) (by simpa using hne), lineOfBuffer?_eq]
  cases hline : lineOfPiece? buffer.reverse <;> simp [hline]

namespace Wire

variable {w w' : Wire} {deadline : Option Time} {answer : Except WireFault Input} {fresh : Bool}

/-! ### One request -/

/-- The bytes of which no line has been made: those that are gathered and those still to come. -/
def unread (w : Wire) : List UInt8 := w.buffer.reverse ++ bytesIn w.source

/-- Does the buffer hold part of one line, and nothing once the source has ended? -/
structure Gathering (w : Wire) : Prop where
  inside : newline ∉ w.buffer
  done : w.ended = true → w.unread = []

/-- What a request leaves of a byte stream: the line that is received comes first among the lines of
the stream, and the wire holds the rest of them. -/
structure Receives (bytes : List UInt8) (answer : Except WireFault Input) (w' : Wire) : Prop where
  gathering : w'.Gathering
  lines : linesOfBytes bytes = (textOf? answer).toList ++ linesOfBytes w'.unread
  closed : answer = .ok .closed → w'.unread = []

lemma gathering_of_open (hended : w.ended = false) (hinside : newline ∉ w.buffer) :
    w.Gathering where
  inside := hinside
  done h := by simp [hended] at h

/-- A request that brings no line leaves all bytes of the stream. -/
lemma Gathering.receives_nothing (h : w'.Gathering) (hline : textOf? answer = none)
    (hbytes : w'.unread = bytes) (hclosed : answer = .ok .closed → bytes = []) :
    Receives bytes answer w' where
  gathering := h
  lines := by rw [hline, hbytes]; rfl
  closed hanswer := hbytes.trans (hclosed hanswer)

lemma receives_drain (h : w.unread = []) (deadline : Option Time) :
    Receives [] (.ok (w.drain deadline).1) (w.drain deadline).2 := by
  obtain ⟨hbuffer, -⟩ := List.append_eq_nil_iff.mp h
  have hinside : newline ∉ w.buffer := by simp [List.reverse_eq_nil_iff.mp hbuffer]
  cases deadline with
  | none => exact Gathering.receives_nothing ⟨hinside, fun _ => h⟩ rfl h fun _ => rfl
  | some d => exact Gathering.receives_nothing ⟨hinside, fun _ => h⟩ rfl h fun _ => rfl

/-- At the end of the source what is left in the buffer is the last line. -/
lemma receives_close (h : newline ∉ w.buffer) (deadline : Option Time) :
    Receives w.buffer.reverse (.ok (w.close deadline).1) (w.close deadline).2 := by
  have hdrain : Receives [] (.ok (w.finish.clear.drain deadline).1)
      (w.finish.clear.drain deadline).2 := receives_drain rfl deadline
  rw [close]
  cases hbuffer : w.buffer with
  | nil => exact hdrain
  | cons b buffer =>
    rw [hbuffer] at h
    have hlines := linesOfBytes_of_notMem h (List.cons_ne_nil b buffer)
    cases hline : lineOfBuffer? (b :: buffer) with
    | none =>
      rw [hline] at hlines
      exact ⟨hdrain.gathering, hlines.trans hdrain.lines, hdrain.closed⟩
    | some text =>
      rw [hline] at hlines
      refine ⟨⟨?_, fun _ => rfl⟩, hlines, fun hclosed => ?_⟩
      · simp [clear]
      · cases hclosed

/-- A read takes the first line of what is gathered and of what is still to come. -/
lemma receives_poll (hended : w.ended = false) (hinside : newline ∉ w.buffer)
    (hfresh : fresh = true → w.buffer ≠ []) :
    Receives (w.buffer.reverse ++ bytesIn signals) (poll deadline w fresh signals).1
      (poll deadline w fresh signals).2 := by
  induction signals generalizing w fresh with
  | nil =>
    rw [bytesIn_nil, List.append_nil, poll]
    cases hf : fresh with
    | false => exact receives_close hinside deadline
    | true =>
      have hlines := linesOfBytes_of_notMem hinside (hfresh hf)
      cases hline : lineOfBuffer? w.buffer with
      | some text =>
        rw [hline] at hlines
        exact ⟨⟨by simp [clear], fun _ => rfl⟩, hlines, fun hclosed => by cases hclosed⟩
      | none =>
        -- A tail that is not UTF-8 is passed over, and the next read finds nothing.
        rw [hline] at hlines
        have hclose := receives_close (w := w.clear) (by simp [clear]) deadline
        exact ⟨hclose.gathering, hlines.trans hclose.lines, hclose.closed⟩
  | cons signal signals ih =>
    cases signal with
    | byte b =>
      rw [bytesIn_byte, poll]
      by_cases hb : b = newline
      · rw [if_pos hb, hb]
        have hlines := linesOfBytes_append_newline hinside (bytesIn signals)
        have hbuffer : (w.gather newline).buffer = newline :: w.buffer := rfl
        rw [hbuffer]
        cases hline : lineOfBuffer? (newline :: w.buffer) with
        | some text =>
          rw [hline] at hlines
          refine ⟨gathering_of_open hended (by simp [clear]), hlines, fun hclosed => ?_⟩
          cases hclosed
        | none =>
          rw [hline] at hlines
          have hrest := @ih w.clear false hended (by simp [clear]) (by simp)
          exact ⟨hrest.gathering, hlines.trans hrest.lines, hrest.closed⟩
      · rw [if_neg hb, List.append_cons]
        have hrest := @ih (w.gather b) true hended (by simp [gather, hinside, Ne.symm hb])
          (by simp [gather])
        have hbuffer : (w.gather b).buffer.reverse = w.buffer.reverse ++ [b] := List.reverse_cons
        rwa [hbuffer] at hrest
    | pause duration =>
      have hwait := ih (w := { w with clock := w.clock + duration }) hended hinside hfresh
      cases deadline with
      | none => exact hwait
      | some d =>
        rw [bytesIn_pause, poll]
        by_cases hd : d ≤ w.clock + duration
        · rw [if_pos hd]
          exact Gathering.receives_nothing (gathering_of_open hended hinside) rfl rfl
            fun hclosed => by cases hclosed
        · rw [if_neg hd]
          exact hwait
    | fault text =>
      exact Gathering.receives_nothing (gathering_of_open hended hinside) rfl rfl
        fun hclosed => by cases hclosed

/-- Whatever a request brings, the lines of what was unread are the line that is received, if any,
and the lines of what is then unread. -/
lemma Gathering.receives (h : w.Gathering) (deadline : Option Time) :
    Receives w.unread (w.receive deadline).1 (w.receive deadline).2 := by
  rw [receive]
  cases hended : w.ended with
  | true =>
    have hnothing := h.done hended
    rw [if_pos rfl, hnothing]
    exact receives_drain hnothing deadline
  | false =>
    rw [if_neg Bool.false_ne_true]
    by_cases hdue : w.isDue deadline = true
    · rw [if_pos hdue]
      exact h.receives_nothing rfl rfl fun hclosed => by cases hclosed
    · rw [if_neg hdue]
      exact receives_poll hended h.inside (by simp)

/-! ### Many requests -/

/-- What requests for input bring, one after the other. -/
def answers (w : Wire) : List (Option Time) → List (Except WireFault Input)
  | [] => []
  | deadline :: deadlines =>
    (w.receive deadline).1 :: (w.receive deadline).2.answers deadlines

/-- The wire after requests for input. -/
def afterRequests (w : Wire) (deadlines : List (Option Time)) : Wire :=
  deadlines.foldl (fun w deadline => (w.receive deadline).2) w

/-- The lines that requests bring, and those of what is then unread, are the lines of what was
unread before. -/
lemma Gathering.lines_answers (h : w.Gathering) (deadlines : List (Option Time)) :
    (w.answers deadlines).filterMap textOf? ++ linesOfBytes (w.afterRequests deadlines).unread =
      linesOfBytes w.unread := by
  induction deadlines generalizing w with
  | nil => rfl
  | cons deadline deadlines ih =>
    have hreceives := h.receives deadline
    have hrest := ih hreceives.gathering
    rw [hreceives.lines, ← hrest, ← List.append_assoc]
    rw [answers, List.filterMap_cons]
    cases textOf? (w.receive deadline).1 <;> rfl

/-- After the wire was closed once, no line comes any more. -/
lemma Gathering.lines_answers_of_closed (h : w.Gathering) {deadlines : List (Option Time)}
    (hclosed : .ok .closed ∈ w.answers deadlines) :
    (w.answers deadlines).filterMap textOf? = linesOfBytes w.unread := by
  induction deadlines generalizing w with
  | nil => cases hclosed
  | cons deadline deadlines ih =>
    have hreceives := h.receives deadline
    have hlines := hreceives.gathering.lines_answers deadlines
    rw [answers, List.mem_cons] at hclosed
    rw [hreceives.lines, answers, List.filterMap_cons]
    rcases hclosed with hclosed | hclosed
    · rw [hreceives.closed hclosed.symm, linesOfBytes_nil, List.append_eq_nil_iff] at hlines
      rw [← hclosed, hreceives.closed hclosed.symm]
      exact hlines.1
    · rw [← ih hreceives.gathering hclosed]
      cases textOf? (w.receive deadline).1 <;> rfl

/-! ### The end of the requests -/

lemma poll_fault {fault : WireFault} (hended : w.ended = false)
    (h : poll deadline w fresh signals = (.error fault, w')) :
    w'.backlog < signals.length + 1 := by
  induction signals generalizing w fresh with
  | nil =>
    rw [poll] at h
    split_ifs at h
    · split at h <;> cases h
    · cases h
  | cons signal signals ih =>
    have hshorter : ∀ {w : Wire} {fresh : Bool}, w.ended = false →
        poll deadline w fresh signals = (.error fault, w') →
        w'.backlog < (signal :: signals).length + 1 := by
      intro w fresh hended h
      exact (ih hended h).trans (by simp)
    cases signal with
    | byte b =>
      rw [poll] at h
      split_ifs at h
      · split at h
        · cases h
        · exact hshorter (w := w.clear) hended h
      · exact hshorter (w := w.gather b) hended h
    | pause duration =>
      cases deadline with
      | none => exact hshorter (w := { w with clock := w.clock + duration }) hended h
      | some d =>
        rw [poll] at h
        split_ifs at h
        · cases h
        · exact hshorter (w := { w with clock := w.clock + duration }) hended h
    | fault text =>
      cases h
      simp [backlog, hended]

lemma backlog_receive_fault {fault : WireFault}
    (h : w.receive deadline = (.error fault, w')) : w'.backlog < w.backlog := by
  rw [receive] at h
  split_ifs at h with hended
  · cases h
  · cases h
  · have hopen : w.ended = false := by simpa using hended
    have hbacklog : w.backlog = w.source.length + 1 := by simp [backlog, hopen]
    rw [hbacklog]
    exact poll_fault hopen h

/-- No request adds to what is to come, and one without a deadline uses up some of it, unless the
wire is closed. -/
lemma backlog_receive (h : w.receive deadline = (answer, w')) (hopen : answer ≠ .ok .closed) :
    w'.backlog ≤ w.backlog ∧ (deadline = none → w'.backlog < w.backlog) := by
  match answer with
  | .ok (.line text) =>
    have hlt : w'.backlog < w.backlog := Channel.receive_line (σ := Wire) h
    exact ⟨hlt.le, fun _ => hlt⟩
  | .ok .deadline =>
    obtain ⟨hle, d, hd, -⟩ := Channel.receive_deadline (σ := Wire) h
    refine ⟨hle, fun hnone => ?_⟩
    cases hnone.symm.trans hd
  | .ok .closed => exact absurd rfl hopen
  | .error fault =>
    have hlt := backlog_receive_fault h
    exact ⟨hlt.le, fun _ => hlt⟩

/-- Whoever asks often enough without a deadline learns that the wire is closed. -/
lemma closed_mem_answers {deadlines : List (Option Time)} (h : w.backlog < deadlines.count none) :
    .ok .closed ∈ w.answers deadlines := by
  induction deadlines generalizing w with
  | nil => cases h
  | cons deadline deadlines ih =>
    rw [answers, List.mem_cons]
    by_cases hclosed : .ok .closed = (w.receive deadline).1
    · exact .inl hclosed
    · obtain ⟨hle, hlt⟩ := backlog_receive (Prod.ext rfl rfl) (Ne.symm hclosed)
      refine .inr (ih ?_)
      cases deadline with
      | none =>
        rw [List.count_cons_self] at h
        exact Nat.lt_of_lt_of_le (hlt rfl) (Nat.le_of_lt_succ h)
      | some d =>
        rw [List.count_cons_of_ne (by simp)] at h
        exact Nat.lt_of_le_of_lt hle h

/--
A new wire whose source sends signals, asked for input any number of times with any deadlines: once
it was closed, the lines that it has brought are those of the byte stream in the signals. At every
time before, these lines are the ones that it has brought and the ones of what it holds and what is
still to come. And it is closed if it is asked often enough without a deadline.
-/
theorem lines_eq_linesOfBytes (source : List Signal) (deadlines : List (Option Time)) :
    let w : Wire := { source := source }
    let lines := (w.answers deadlines).filterMap textOf?
    (.ok .closed ∈ w.answers deadlines → lines = linesOfBytes (bytesIn source)) ∧
      lines ++ linesOfBytes (w.afterRequests deadlines).unread = linesOfBytes (bytesIn source) ∧
      (source.length + 1 < deadlines.count none → .ok .closed ∈ w.answers deadlines) := by
  intro w lines
  have h : w.Gathering := gathering_of_open rfl (by simp [w])
  refine ⟨h.lines_answers_of_closed, h.lines_answers deadlines, ?_⟩
  intro hcount
  exact closed_mem_answers hcount

-- A line is interrupted by a deadline and by a fault, one is not UTF-8, and the last has no end.
example :
    let source : List Signal := [.byte 97, .pause 5, .fault "busy", .byte 98, .byte 13, .byte 10,
      .byte 255, .byte 10, .byte 99]
    let requests := [some 3, none, none, some 2, none, none]
    ({ source := source } : Wire).answers requests =
        [.ok .deadline, .error (.read "busy"), .ok (.line "ab"), .ok .deadline, .ok (.line "c"),
          .ok .closed] ∧
      linesOfBytes (bytesIn source) = ["ab", "c"] := by
  decide

end Wire

end LightArbiter
