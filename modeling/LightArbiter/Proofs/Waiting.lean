import LightArbiter.Proofs.Reassembly

/-!
# Waiting for input

Whoever asks a wire for input with a deadline waits no longer than that: a line or a fault comes
before the deadline, or the deadline is reported when it comes, at once if it has passed. Only a
request without a deadline can find that the wire is closed, and that only at the end of the source,
when all bytes have been dealt with. From then on the source is left alone.
-/

namespace LightArbiter

namespace Wire

variable {w w' : Wire} {deadline : Option Time} {answer : Except WireFault Input} {now d : Time}
  {fresh : Bool} {signals : List Signal}

/-! ### When an answer comes -/

/-- An answer to a request that was made at a certain time with a deadline or without, and the wire
that it leaves at the time at which it comes. -/
inductive Comes (now : Time) : Option Time → Except WireFault Input → Wire → Prop where
  | deadline {d : Time} {w' : Wire} (punctual : w'.clock = max now d) :
      Comes now (some d) (.ok .deadline) w'
  | line {deadline : Option Time} {text : String} {w' : Wire} (since : now ≤ w'.clock)
      (early : ∀ d, deadline = some d → w'.clock < d) : Comes now deadline (.ok (.line text)) w'
  | fault {deadline : Option Time} {text : String} {w' : Wire} (since : now ≤ w'.clock)
      (early : ∀ d, deadline = some d → w'.clock < d) :
      Comes now deadline (.error (.read text)) w'
  | closed {w' : Wire} (since : now ≤ w'.clock) (ended : w'.ended = true) :
      Comes now none (.ok .closed) w'

/-- What comes to somebody who has asked later, with the deadline still ahead, comes as well to
somebody who has asked before. -/
lemma Comes.of_earlier {later : Time} (h : Comes later deadline answer w') (hnow : now ≤ later)
    (hearly : ∀ d, deadline = some d → later < d) : Comes now deadline answer w' := by
  cases h with
  | @deadline d _ hpunctual =>
    have hahead := hearly d rfl
    refine .deadline ?_
    rw [hpunctual, Nat.max_eq_right hahead.le, Nat.max_eq_right (hnow.trans hahead.le)]
  | line hsince hline => exact .line (hnow.trans hsince) hline
  | fault hsince hfault => exact .fault (hnow.trans hsince) hfault
  | closed hsince hended => exact .closed (hnow.trans hsince) hended

lemma Comes.le_clock (h : Comes now deadline answer w') : now ≤ w'.clock := by
  cases h with
  | deadline hpunctual => exact hpunctual ▸ Nat.le_max_left ..
  | line hsince _ | fault hsince _ | closed hsince _ => exact hsince

lemma Comes.by_deadline (h : Comes now (some d) answer w') :
    w'.clock ≤ max now d ∧ (answer = .ok .deadline → w'.clock = max now d) ∧
      (∀ text, answer = .ok (.line text) → w'.clock < d) ∧
      (∀ fault, answer = .error fault → w'.clock < d) ∧ answer ≠ .ok .closed := by
  cases h with
  | deadline hpunctual => simp [hpunctual]
  | line _ hearly =>
    have hlt := hearly d rfl
    exact ⟨hlt.le.trans (Nat.le_max_right ..), by simp, fun _ _ => hlt, by simp, by simp⟩
  | fault _ hearly =>
    have hlt := hearly d rfl
    exact ⟨hlt.le.trans (Nat.le_max_right ..), by simp, by simp, fun _ _ => hlt, by simp⟩

lemma Comes.ended_of_closed (h : Comes now deadline answer w') (hclosed : answer = .ok .closed) :
    w'.ended = true := by
  cases h with
  | closed _ hended => exact hended
  | _ => cases hclosed

lemma comes_drain (hended : w.ended = true) (deadline : Option Time) :
    Comes w.clock deadline (.ok (w.drain deadline).1) (w.drain deadline).2 := by
  cases deadline with
  | none => exact .closed (Nat.le_refl _) hended
  | some d => exact .deadline rfl

lemma comes_close (hearly : ∀ d, deadline = some d → w.clock < d) :
    Comes w.clock deadline (.ok (w.close deadline).1) (w.close deadline).2 := by
  have hdrain : Comes w.clock deadline (.ok (w.finish.clear.drain deadline).1)
      (w.finish.clear.drain deadline).2 := comes_drain (w := w.finish.clear) rfl deadline
  rw [close]
  cases w.buffer with
  | nil => exact hdrain
  | cons b buffer =>
    cases lineOfBuffer? (b :: buffer) with
    | none => exact hdrain
    | some text => exact .line (Nat.le_refl _) hearly

/-- What comes of a read that starts before the deadline. Every pause is over before the deadline,
or the deadline ends the read. -/
lemma comes_poll (hearly : ∀ d, deadline = some d → w.clock < d) :
    Comes w.clock deadline (poll deadline w fresh signals).1
      (poll deadline w fresh signals).2 := by
  induction signals generalizing w fresh with
  | nil =>
    rw [poll]
    cases fresh with
    | false => exact comes_close hearly
    | true =>
      cases lineOfBuffer? w.buffer with
      | some text => exact .line (Nat.le_refl _) hearly
      | none => exact comes_close (w := w.clear) hearly
  | cons signal signals ih =>
    cases signal with
    | byte b =>
      rw [poll]
      split_ifs
      · cases lineOfBuffer? (w.gather b).buffer with
        | some text => exact .line (Nat.le_refl _) hearly
        | none => exact ih (w := w.clear) hearly
      · exact ih (w := w.gather b) hearly
    | pause duration =>
      have hwait := @ih { w with clock := w.clock + duration } fresh
      have hlater : w.clock ≤ w.clock + duration := Nat.le_add_right ..
      cases deadline with
      | none => exact (hwait (by simp)).of_earlier hlater (by simp)
      | some d =>
        rw [poll]
        by_cases hd : d ≤ w.clock + duration
        · rw [if_pos hd]
          exact .deadline (Nat.max_eq_right (hearly d rfl).le).symm
        · have hahead : ∀ d', some d = some d' → w.clock + duration < d' := by
            rintro _ ⟨⟩
            exact Nat.lt_of_not_le hd
          rw [if_neg hd]
          exact (hwait hahead).of_earlier hlater hahead
    | fault text => exact .fault (Nat.le_refl _) hearly

/-- When an answer comes, whatever has happened on the wire before. -/
lemma comes_receive (w : Wire) (deadline : Option Time) :
    Comes w.clock deadline (w.receive deadline).1 (w.receive deadline).2 := by
  rw [receive]
  split_ifs with hended hdue
  · exact comes_drain hended deadline
  · cases deadline with
    | none => cases hdue
    | some d => exact .deadline (Nat.max_eq_left (by simpa [isDue] using hdue)).symm
  · apply comes_poll
    rintro d rfl
    simpa [isDue] using hdue

/-! ### After the end of the source -/

/-- The wire with another source. -/
def withSource (w : Wire) (signals : List Signal) : Wire := { w with source := signals }

lemma ended_receive (h : w.ended = true) (deadline : Option Time) :
    (w.receive deadline).2.ended = true := by
  rw [receive, if_pos h]
  cases deadline <;> exact h

/-- Once the end of the source has been seen, a request neither depends on the source nor takes
anything from it. -/
lemma receive_withSource (h : w.ended = true) (signals : List Signal) (deadline : Option Time) :
    (w.withSource signals).receive deadline =
      ((w.receive deadline).1, (w.receive deadline).2.withSource signals) := by
  have hended : (w.withSource signals).ended = true := h
  rw [receive, receive, if_pos h, if_pos hended]
  cases deadline <;> rfl

lemma answers_withSource (h : w.ended = true) (signals : List Signal)
    (deadlines : List (Option Time)) :
    (w.withSource signals).answers deadlines = w.answers deadlines ∧
      (w.withSource signals).afterRequests deadlines =
        (w.afterRequests deadlines).withSource signals := by
  induction deadlines generalizing w with
  | nil => exact ⟨rfl, rfl⟩
  | cons deadline deadlines ih =>
    obtain ⟨hanswers, hafter⟩ := ih (ended_receive h deadline)
    constructor
    · rw [answers, answers, receive_withSource h, hanswers]
    · simp only [afterRequests, List.foldl_cons, receive_withSource h]
      exact hafter

/-! ### All requests -/

lemma Gathering.afterRequests (h : w.Gathering) (deadlines : List (Option Time)) :
    (w.afterRequests deadlines).Gathering := by
  induction deadlines generalizing w with
  | nil => exact h
  | cons deadline deadlines ih => exact ih (h.receives deadline).gathering

/--
A new wire whose source sends signals is asked for input any number of times with any deadlines, and
then once more. With a deadline the answer is there by then, or at once if the deadline has passed:
the deadline is reported exactly at that time, a line or a fault comes strictly before the deadline,
and the wire is not closed. If the wire is closed then the end of its source has been seen, and all
bytes that were sent, cut after every newline, are the lines received so far, in order, except for
the pieces that are not UTF-8. Once the end has been seen, whatever the source would still send, the
answers are the same and all of it is left there.
-/
theorem receive_by_deadline (start : Time) (source : List Signal)
    (deadlines : List (Option Time)) (deadline : Option Time) :
    let new : Wire := { clock := start, source := source }
    let w := new.afterRequests deadlines
    let answer := (w.receive deadline).1
    let w' := (w.receive deadline).2
    w.clock ≤ w'.clock ∧
    (∀ d, deadline = some d →
      w'.clock ≤ max w.clock d ∧
      (answer = .ok .deadline → w'.clock = max w.clock d) ∧
      (∀ text, answer = .ok (.line text) → w'.clock < d) ∧
      (∀ fault, answer = .error fault → w'.clock < d) ∧
      answer ≠ .ok .closed) ∧
    (answer = .ok .closed → w'.ended = true ∧ w'.buffer = [] ∧
      (cutAfter newline (bytesIn source)).flatten = bytesIn source ∧
      (new.answers deadlines).filterMap textOf? =
        (cutAfter newline (bytesIn source)).filterMap lineOfPiece?) ∧
    (w.ended = true → ∀ signals later,
      (w.withSource signals).answers later = w.answers later ∧
        ((w.withSource signals).afterRequests later).source = signals) := by
  intro new w answer w'
  have hnew : new.Gathering := gathering_of_open rfl (by simp [new])
  have hcomes : Comes w.clock deadline answer w' := comes_receive w deadline
  refine ⟨hcomes.le_clock, ?_, fun hclosed => ?_, fun hended signals later => ?_⟩
  · rintro d rfl
    exact hcomes.by_deadline
  · have hreceives : Receives w.unread answer w' :=
      (hnew.afterRequests deadlines).receives deadline
    have hunread := hreceives.closed hclosed
    have hrest : linesOfBytes w.unread = [] := by
      rw [hreceives.lines, hclosed, hunread]
      rfl
    have hlines := hnew.lines_answers deadlines
    rw [show new.afterRequests deadlines = w from rfl, hrest, List.append_nil] at hlines
    refine ⟨hcomes.ended_of_closed hclosed, ?_, flatten_cutAfter .., hlines⟩
    exact List.reverse_eq_nil_iff.mp (List.append_eq_nil_iff.mp hunread).1
  · obtain ⟨hanswers, hafter⟩ := answers_withSource hended signals later
    exact ⟨hanswers, by rw [hafter]; rfl⟩

-- The line comes just at the deadline, which is reported first, and again when it has passed.
example :
    let w : Wire := { source := [.pause 5, .byte 97, .byte 10, .byte 255] }
    w.answers [some 5, some 3, some 6, none] =
        [.ok .deadline, .ok .deadline, .ok (.line "a"), .ok .closed] ∧
      (w.afterRequests [some 5, some 3, some 6]).clock = 5 := by
  decide

end Wire

end LightArbiter
