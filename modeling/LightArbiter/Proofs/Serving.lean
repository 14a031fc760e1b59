import LightArbiter.Proofs.Breakdown
import LightArbiter.Program
import LightArbiter.Service

/-!
# Input in parts

The service deals with its input in the parts in which it comes. A wire is ready exactly if it gives
the same answer whatever is still to come; it leaves that where it is, and does not run ahead of the
time that has come. So the service ends as the run on the whole input does, and writes the same,
however the input is cut into parts.
-/

namespace LightArbiter

namespace Wire

variable {w : Wire} {deadline : Option Time} {fresh : Bool} {signals : List Signal}

lemma poll_feed (h : w.decides deadline signals = true) (more : List Signal) :
    poll deadline (w.feed more) fresh (signals ++ more) =
      ((poll deadline w fresh signals).1, (poll deadline w fresh signals).2.feed more) := by
  induction signals generalizing w fresh with
  | nil => cases h
  | cons signal signals ih =>
    rw [List.cons_append]
    cases signal with
    | byte b =>
      have hbuffer : ((w.feed more).gather b).buffer = (w.gather b).buffer := rfl
      rw [decides] at h
      rw [poll, poll, hbuffer]
      split_ifs at h ⊢
      · cases hline : lineOfBuffer? (w.gather b).buffer with
        | some text => rfl
        | none => exact ih (w := w.clear) (by simpa [hline] using h)
      · exact ih (w := w.gather b) h
    | pause duration =>
      have hclock : (w.feed more).clock = w.clock := rfl
      have hwait := @ih { w with clock := w.clock + duration } fresh
      cases deadline with
      | none => exact hwait (by simpa [decides, isDue] using h)
      | some d =>
        simp only [poll, hclock]
        split_ifs with hd
        · rfl
        · exact hwait (by simpa [decides, isDue, hd] using h)
    | fault text => rfl

/-- What is still to come makes no difference to a wire that is ready, and is left there. -/
lemma receive_feed (h : w.isReady deadline = true) (more : List Signal) :
    (w.feed more).receive deadline =
      ((w.receive deadline).1, (w.receive deadline).2.feed more) := by
  have hended : (w.feed more).ended = w.ended := rfl
  have hdue : (w.feed more).isDue deadline = w.isDue deadline := rfl
  rw [receive, receive, hended, hdue]
  split_ifs with hw hd
  · cases deadline <;> rfl
  · rfl
  · exact poll_feed (by simpa [isReady, hw, hd] using h) more

/-- A wire that is not ready comes to what follows the signals that have come. -/
lemma poll_fault_of_undecided (h : w.decides deadline signals = false) (more : List Signal)
    (text : String) :
    (poll deadline (w.feed more) fresh (signals ++ [.fault text])).1 = .error (.read text) := by
  induction signals generalizing w fresh with
  | nil => rfl
  | cons signal signals ih =>
    rw [List.cons_append]
    cases signal with
    | byte b =>
      have hbuffer : ((w.feed more).gather b).buffer = (w.gather b).buffer := rfl
      rw [decides] at h
      rw [poll, hbuffer]
      split_ifs at h ⊢
      · cases hline : lineOfBuffer? (w.gather b).buffer with
        | some line => simp [hline] at h
        | none => exact ih (w := w.clear) (by simpa [hline] using h)
      · exact ih (w := w.gather b) h
    | pause duration =>
      have hclock : (w.feed more).clock = w.clock := rfl
      have hwait := @ih { w with clock := w.clock + duration } fresh
      cases deadline with
      | none => exact hwait (by simpa [decides, isDue] using h)
      | some d =>
        simp only [poll, hclock]
        split_ifs with hd
        · simp [decides, isDue, hd] at h
        · exact hwait (by simpa [decides, isDue, hd] using h)
    | fault text => cases h

/-- A wire is ready exactly if it gives the same answer whatever is still to come. -/
theorem isReady_iff :
    w.isReady deadline = true ↔
      ∀ more, ((w.feed more).receive deadline).1 = (w.receive deadline).1 := by
  constructor
  · intro h more
    rw [receive_feed h]
  · intro h
    by_contra hready
    simp only [isReady, Bool.or_eq_true, not_or, Bool.not_eq_true] at hready
    obtain ⟨⟨hended, hdue⟩, hdecides⟩ := hready
    -- Two reads that fail differently cannot both be the answer.
    have hfault (text : String) : (w.receive deadline).1 = .error (.read text) := by
      have hended' : (w.feed [.fault text]).ended = false := hended
      have hdue' : (w.feed [.fault text]).isDue deadline = false := hdue
      rw [← h [.fault text], receive, hended', hdue']
      exact poll_fault_of_undecided hdecides _ text
    have heq := (hfault "").symm.trans (hfault "gone")
    simp at heq

/-! ### Time -/

lemma clock_le_horizon (w : Wire) : w.clock ≤ w.horizon := by
  rw [horizon]
  induction w.source generalizing w with
  | nil => exact Nat.le_refl _
  | cons signal signals ih =>
    exact (Nat.le_add_right ..).trans (ih { w with clock := w.clock + signal.duration })

lemma horizon_poll (h : w.decides deadline signals = true) :
    (poll deadline w fresh signals).2.horizon = { w with source := signals }.horizon := by
  induction signals generalizing w fresh with
  | nil => cases h
  | cons signal signals ih =>
    cases signal with
    | byte b =>
      rw [decides] at h
      rw [poll]
      split_ifs at h ⊢
      · cases hline : lineOfBuffer? (w.gather b).buffer with
        | some text => rfl
        | none => exact ih (w := w.clear) (by simpa [hline] using h)
      · exact ih (w := w.gather b) h
    | pause duration =>
      have hwait := @ih { w with clock := w.clock + duration } fresh
      cases deadline with
      | none => exact hwait (by simpa [decides, isDue] using h)
      | some d =>
        rw [poll]
        split_ifs with hd
        · -- What is left of the pause is waited for afterwards.
          simp only [horizon, List.foldl_cons, Signal.duration, Nat.add_sub_cancel' hd]
        · exact hwait (by simpa [decides, isDue, hd] using h)
    | fault text => rfl

/-- No time is lost when a wire answers that is ready. -/
lemma horizon_receive (hopen : w.ended = false) (h : w.isReady deadline = true) :
    (w.receive deadline).2.horizon = w.horizon := by
  rw [isReady, hopen, Bool.false_or] at h
  rw [receive, hopen, if_neg Bool.false_ne_true]
  split_ifs with hdue
  · rfl
  · exact horizon_poll (by simpa [hdue] using h)

/-- Until the end of the source has been seen, an answer does not come ahead of the signals. -/
theorem clock_receive_le_horizon (hopen : w.ended = false) (h : w.isReady deadline = true) :
    (w.receive deadline).2.clock ≤ w.horizon := by
  rw [← horizon_receive hopen h]
  exact clock_le_horizon _

lemma feed_nil (w : Wire) : w.feed [] = w := by simp [feed]

end Wire

section Runs

variable {b final : Run Wire} {entries : List Entry} {ending : Except WireFault Unit}

lemma Run.feed_nil (b : Run Wire) : b.feed [] = b := by
  rw [Run.feed, Wire.feed_nil]

lemma Run.feed_append (b : Run Wire) (part more : List Signal) :
    b.feed (part ++ more) = (b.feed part).feed more := by
  simp [Run.feed, Wire.feed]

lemma Run.received_withSink (b : Run Wire) (s : Sink) :
    (b.withSink s).received = (b.received.1, b.received.2.withSink s) :=
  Run.receive_withSink b s

/-- What a run takes in does not depend on its sink. -/
lemma Intake.withSink (h : Intake b entries ending final) (s : Sink) :
    Intake (b.withSink s) entries ending (final.withSink s) := by
  induction h with
  | @close b c hreceive =>
    have hclosed : (b.withSink s).received = (.ok .closed, c.withSink s) := by
      rw [Run.received_withSink, hreceive]
    exact .close hclosed
  | @fault b c text hreceive =>
    have hfault : (b.withSink s).received = (.error (.read text), c.withSink s) := by
      rw [Run.received_withSink, hreceive]
    exact .fault hfault
  | @take b final c input entries ending hreceive hopen _ ih =>
    have hinput : (b.withSink s).received = (.ok input, c.withSink s) := by
      rw [Run.received_withSink, hreceive]
    exact .take (c := c.withSink s) hinput hopen ih

end Runs

namespace Service

variable {s : Service} {parts : List (List Signal)}

/-! ### Moves -/

lemma isReady_of_move (h : s.move ≠ .await) : s.isReady = true := by
  by_contra hready
  exact h (if_neg hready)

/-- What a service does that is ready: it takes an input and writes the groups that this calls for,
or it ends. -/
inductive Moves (s : Service) : Move → Prop where
  | take {c : Wire} {input : Input} {sink : Sink} (receives : s.run.received = (.ok input, c))
      (open_ : input ≠ .closed) :
      Moves s (.proceed ((Entry.groups ⟨s.run.session, c.clock, input⟩).map Directive.render)
        (Run.withSink ⟨c, Entry.next ⟨s.run.session, c.clock, input⟩⟩ sink))
  | close {c : Wire} (receives : s.run.received = (.ok .closed, c)) : Moves s (.stop [] (.ok ()))
  | fault {c : Wire} {text : String} (receives : s.run.received = (.error (.read text), c)) :
      Moves s (.stop [] (.error (.read text)))

lemma moves (hready : s.isReady = true) : s.Moves s.move := by
  rw [move, if_pos hready]
  rcases hreceive : s.run.received with ⟨fault | input, c⟩
  · obtain ⟨text, rfl⟩ := Wire.read_of_receive_error hreceive
    rw [step_of_fault hreceive]
    exact .fault hreceive
  · by_cases hclosed : input = .closed
    · subst hclosed
      rw [step_of_closed hreceive]
      exact .close hreceive
    · have hstep : (s.run.withSink {}).step = _ :=
        step_of_takes (s := {}) [] hreceive hclosed (Sink.takes_all _ _)
      rw [hstep]
      exact .take hreceive hclosed

/-! ### All parts -/

lemma serve_of_proceed {texts : List String} {next : Run Wire}
    (h : s.move = .proceed texts next) :
    s.serve parts = ((serve { s with run := next } parts).1,
      texts ++ (serve { s with run := next } parts).2) := by
  rw [serve.eq_def]
  split <;> simp_all

lemma serve_of_stop {texts : List String} {outcome : Except WireFault Unit}
    (h : s.move = .stop texts outcome) : s.serve parts = (outcome, texts) := by
  rw [serve.eq_def]
  split <;> simp_all

lemma serve_nil_of_await (h : s.move = .await) : s.serve [] = s.finish.serve [] := by
  rw [serve]
  split <;> simp_all

lemma serve_cons_of_await {part : List Signal} (h : s.move = .await) :
    s.serve (part :: parts) = (s.feed part).serve parts := by
  rw [serve]
  split <;> simp_all

/-- A service that is ready receives what it would receive if all parts had come. -/
lemma received_feed (hready : s.isReady = true) (hparts : s.complete = true → parts = []) :
    (s.run.feed parts.flatten).received =
      (s.run.received.1, s.run.received.2.feed parts.flatten) := by
  rw [isReady, Bool.or_eq_true] at hready
  rcases hready with hcomplete | hready
  · rw [hparts hcomplete, List.flatten_nil, Run.feed_nil, Wire.feed_nil]
  · exact Wire.receive_feed hready parts.flatten

/-- What a service deals with is what a run on all parts takes in. -/
lemma exists_intake_serve (hparts : s.complete = true → parts = []) :
    ∃ entries ending final, Intake (s.run.feed parts.flatten) entries ending final ∧
      s.serve parts = (ending, (entries.flatMap Entry.groups).map Directive.render) := by
  induction s, parts using serve.induct with
  | case1 s parts texts next hmove _ ih =>
    have hready : s.isReady = true := isReady_of_move (by simp [hmove])
    have hfeed := received_feed hready hparts
    have hmoves : s.Moves (.proceed texts next) := hmove ▸ moves hready
    cases hmoves with
    | @take c input _ hreceive hopen =>
      obtain ⟨entries, ending, final, hrest, hserve⟩ := ih hparts
      rw [hreceive] at hfeed
      refine ⟨_, ending, _, .take hfeed hopen (hrest.withSink c.sink), ?_⟩
      rw [serve_of_proceed hmove, hserve, List.flatMap_cons, List.map_append]
      rfl
  | case2 s parts texts outcome hmove =>
    have hready : s.isReady = true := isReady_of_move (by simp [hmove])
    have hfeed := received_feed hready hparts
    have hmoves : s.Moves (.stop texts outcome) := hmove ▸ moves hready
    rw [serve_of_stop hmove]
    cases hmoves with
    | close hreceive =>
      rw [hreceive] at hfeed
      exact ⟨[], _, _, .close hfeed, rfl⟩
    | fault hreceive =>
      rw [hreceive] at hfeed
      exact ⟨[], _, _, .fault hfeed, rfl⟩
  | case3 s hmove _ ih =>
    rw [serve_nil_of_await hmove]
    exact ih fun _ => rfl
  | case4 s hmove hopen part parts ih =>
    rw [serve_cons_of_await hmove, List.flatten_cons, Run.feed_append]
    exact ih fun hcomplete => absurd hcomplete (by simp [feed, hopen])

/--
A new service whose input comes in parts, and ends after them, ends as the run on the whole input
does, and has then written what that run writes.
-/
theorem serve_eq_run (config : Config) (parts : List (List Signal)) :
    let whole := (Run.fed config parts.flatten {}).run
    (new config).serve parts = (whole.1, whole.2.channel.sink.written) := by
  intro whole
  have hparts : (new config).complete = true → parts = [] := nofun
  obtain ⟨entries, ending, final, h, hserve⟩ := exists_intake_serve hparts
  have hrun : whole = _ := (h.run_of_takes [] (Sink.takes_all _ _)).1
  rw [hserve, hrun]
  rfl

end Service

/-- The program does on an input what a service does to which the input comes in any parts. -/
theorem Program.run_flatten {arguments : List String} {options : Options}
    (h : start arguments = .ok options) (parts : List (List UInt8)) :
    let served := (Service.new options.config).serve (parts.map (List.map Signal.byte))
    run arguments parts.flatten = ending served.1 served.2 := by
  intro served
  have hone := Service.serve_eq_run options.config [parts.flatten.map Signal.byte]
  have hparts : served = _ := Service.serve_eq_run options.config (parts.map (List.map Signal.byte))
  rw [List.flatten_singleton, List.map_flatten] at hone
  rw [run, h, List.map_flatten, hparts]
  exact congrArg (fun served => ending served.1 served.2) hone

end LightArbiter
