import LightArbiter.Proofs.Settlement
import LightArbiter.Proofs.Waiting

/-!
# Sinks that break down

A run on a wire takes its inputs one by one, and the groups that an input calls for are written and
flushed one by one before the next input is asked for. So a sink that breaks down has got exactly the
groups before the one that it fails with, and nothing is read or written any more. `Intake` says what
a run takes in and how it ends, which does not depend on the sink until that fails.
-/

namespace LightArbiter

/-- What a sink fails to do with a group. -/
inductive Lapse where
  | write
  | flush
deriving DecidableEq

/-- The fault that comes of a lapse. -/
def Lapse.fault : Lapse → WireFault
  | write => .write "actuator gone"
  | flush => .write "flush failed"

/-- How many groups have been written after a lapse with the one of a number. -/
def Lapse.writes (k : Nat) : Lapse → Nat
  | write => k
  | flush => k + 1

/-- The groups that the input calls for. -/
def Entry.groups (e : Entry) : List Group := e.result.2

lemma Entry.emitted_next (e : Entry) :
    e.next.tally.emitted = e.session.tally.emitted + e.groups.length := by
  have hcounts := e.counts_next.emitted
  rwa [Entry.emissions, List.length_map] at hcounts

/-! ### Sinks -/

namespace Sink

variable {s : Sink} {before groups : List Group} {group : Group} {lapse : Lapse}

/-- What the sink fails to do with the group of a number, if it fails with it. -/
def lapse? (s : Sink) (k : Nat) : Option Lapse :=
  if s.failingWrite = some k then some .write
  else if s.failingFlush = some k then some .flush
  else none

/-- The sink when it has got these groups, each of them written at once and flushed. -/
def holding (s : Sink) (groups : List Group) : Sink :=
  { s with written := groups.map Directive.render, flushes := groups.length }

/-- The sink when it has got these groups and then failed with another. -/
def failed (s : Sink) (groups : List Group) (group : Group) (lapse : Lapse) : Sink :=
  { s.holding groups with
    written := ((groups ++ [group]).take (lapse.writes groups.length)).map Directive.render }

/-- Does the sink not fail with these groups after others? -/
def Takes (s : Sink) (before groups : List Group) : Prop :=
  ∀ i < groups.length, s.lapse? (before.length + i) = none

lemma put_of_takes (h : s.lapse? before.length = none) :
    (s.holding before).put (Directive.render group) = (.ok (), s.holding (before ++ [group])) := by
  unfold lapse? at h
  split_ifs at h with hwrite hflush
  simp [put, holding, hwrite, hflush]

lemma put_of_lapse (h : s.lapse? before.length = some lapse) :
    (s.holding before).put (Directive.render group) =
      (.error lapse.fault, s.failed before group lapse) := by
  unfold lapse? at h
  split_ifs at h with hwrite hflush
  · cases h
    simp [put, holding, failed, hwrite, Lapse.fault, Lapse.writes]
  · cases h
    simp [put, holding, failed, hwrite, hflush, Lapse.fault, Lapse.writes]

/-- A sink that never fails takes everything. -/
lemma takes_all (before groups : List Group) : ({} : Sink).Takes before groups := by
  simp [Takes, lapse?]

lemma takes_nil : s.Takes before [] := by simp [Takes]

lemma takes_cons :
    s.Takes before (group :: groups) ↔
      s.lapse? before.length = none ∧ s.Takes (before ++ [group]) groups := by
  constructor
  · intro h
    refine ⟨h 0 (by simp), fun i hi => ?_⟩
    have hnext := h (i + 1) (by simpa using hi)
    rwa [List.length_append, List.length_singleton, Nat.add_assoc, Nat.add_comm 1]
  · rintro ⟨hfirst, hrest⟩ i hi
    cases i with
    | zero => exact hfirst
    | succ i =>
      have hnext := hrest i (by simpa using hi)
      rwa [List.length_append, List.length_singleton, Nat.add_assoc, Nat.add_comm 1] at hnext

lemma takes_append {front back : List Group} :
    s.Takes before (front ++ back) ↔ s.Takes before front ∧ s.Takes (before ++ front) back := by
  induction front generalizing before with
  | nil => simp [takes_nil]
  | cons group front ih =>
    rw [List.cons_append, takes_cons, takes_cons, ih, and_assoc, List.append_assoc,
      List.singleton_append]

/-- Of several groups a sink takes all, or it fails with one and has taken those in front of it. -/
lemma takes_or_exists_lapse (s : Sink) (before groups : List Group) :
    s.Takes before groups ∨ ∃ front group back lapse, groups = front ++ group :: back ∧
      s.Takes before front ∧ s.lapse? (before ++ front).length = some lapse := by
  induction groups generalizing before with
  | nil => exact .inl takes_nil
  | cons group groups ih =>
    cases hlapse : s.lapse? before.length with
    | some lapse => exact .inr ⟨[], group, groups, lapse, rfl, takes_nil, by simpa using hlapse⟩
    | none =>
      rcases ih (before ++ [group]) with htakes | ⟨front, failing, back, lapse, rfl, htakes, hfails⟩
      · exact .inl (takes_cons.mpr ⟨hlapse, htakes⟩)
      · exact .inr ⟨group :: front, failing, back, lapse, rfl, takes_cons.mpr ⟨hlapse, htakes⟩,
          by simpa using hfails⟩

end Sink

/-! ### Wires with another sink -/

namespace Wire

variable {w : Wire} {s : Sink} {deadline : Option Time} {fresh : Bool}

lemma drain_withSink :
    (w.withSink s).drain deadline =
      ((w.drain deadline).1, (w.drain deadline).2.withSink s) := by
  cases deadline <;> rfl

lemma close_withSink :
    (w.withSink s).close deadline =
      ((w.close deadline).1, (w.close deadline).2.withSink s) := by
  have hbuffer : (w.withSink s).buffer = w.buffer := rfl
  have hdrain : (w.finish.clear.withSink s).drain deadline = _ := drain_withSink
  rw [close, close, hbuffer]
  cases w.buffer with
  | nil => exact hdrain
  | cons b buffer =>
    cases lineOfBuffer? (b :: buffer) with
    | some text => rfl
    | none => exact hdrain

lemma poll_withSink (signals : List Signal) :
    poll deadline (w.withSink s) fresh signals =
      ((poll deadline w fresh signals).1, (poll deadline w fresh signals).2.withSink s) := by
  induction signals generalizing w fresh with
  | nil =>
    have hbuffer : (w.withSink s).buffer = w.buffer := rfl
    have hclear : (w.withSink s).clear.close deadline = _ := close_withSink (w := w.clear)
    rw [poll, poll, hbuffer, hclear, close_withSink]
    split_ifs
    · cases lineOfBuffer? w.buffer <;> rfl
    · rfl
  | cons signal signals ih =>
    cases signal with
    | byte b =>
      have hbuffer : ((w.withSink s).gather b).buffer = (w.gather b).buffer := rfl
      rw [poll, poll, hbuffer]
      split_ifs
      · cases lineOfBuffer? (w.gather b).buffer with
        | some text => rfl
        | none => exact ih (w := w.clear)
      · exact ih (w := w.gather b)
    | pause duration =>
      have hclock : (w.withSink s).clock = w.clock := rfl
      have hwait := @ih { w with clock := w.clock + duration } fresh
      cases deadline with
      | none => exact hwait
      | some d =>
        simp only [poll, hclock]
        split_ifs
        · rfl
        · exact hwait
    | fault text => rfl

/-- What a wire receives does not depend on its sink, and leaves it alone. -/
lemma receive_withSink :
    (w.withSink s).receive deadline =
      ((w.receive deadline).1, (w.receive deadline).2.withSink s) := by
  have hended : (w.withSink s).ended = w.ended := rfl
  have hdue : (w.withSink s).isDue deadline = w.isDue deadline := rfl
  have hsource : (w.withSink s).source = w.source := rfl
  rw [receive, receive, hended, hdue, hsource, drain_withSink, poll_withSink]
  split_ifs <;> rfl

end Wire

/-- What a run receives when it asks for its next input. -/
def Run.received (r : Run Wire) : Except WireFault Input × Wire :=
  r.channel.receive r.session.arbiter.deadline

lemma Run.receive_withSink (b : Run Wire) (s : Sink) :
    Channel.receive (b.withSink s).channel (b.withSink s).session.arbiter.deadline =
      (b.received.1, b.received.2.withSink s) :=
  Wire.receive_withSink

/-! ### Inputs and their groups -/

section Steps

variable {b : Run Wire} {c : Wire} {s : Sink} {session : Session} {before groups : List Group}
  {front back : List Group} {group : Group} {lapse : Lapse} {input : Input}

lemma emitAll_of_takes (h : s.Takes before groups) :
    Run.emitAll ⟨c.withSink (s.holding before), session⟩ groups =
      (.ok (), ⟨c.withSink (s.holding (before ++ groups)),
        groups.foldl (fun s _ => s.countEmitted) session⟩) := by
  induction groups generalizing before session with
  | nil => rw [List.append_nil]; rfl
  | cons group groups ih =>
    obtain ⟨hfirst, hrest⟩ := Sink.takes_cons.mp h
    have hemit : Channel.emit (c.withSink (s.holding before)) group =
        (.ok (), c.withSink (s.holding (before ++ [group]))) := by
      simp only [Channel.emit, Wire.emit, Wire.withSink, Sink.put_of_takes hfirst]
    have hassoc : before ++ group :: groups = before ++ [group] ++ groups := List.append_cons ..
    rw [Run.emitAll, hemit, hassoc]
    exact ih hrest

lemma emitAll_of_lapse (h : s.Takes before front)
    (hlapse : s.lapse? (before ++ front).length = some lapse) :
    Run.emitAll ⟨c.withSink (s.holding before), session⟩ (front ++ group :: back) =
      (.error lapse.fault, ⟨c.withSink (s.failed (before ++ front) group lapse),
        front.foldl (fun s _ => s.countEmitted) session⟩) := by
  induction front generalizing before session with
  | nil =>
    rw [List.append_nil] at hlapse ⊢
    have hemit : Channel.emit (c.withSink (s.holding before)) group =
        (.error lapse.fault, c.withSink (s.failed before group lapse)) := by
      simp only [Channel.emit, Wire.emit, Wire.withSink, Sink.put_of_lapse hlapse]
    rw [List.nil_append, Run.emitAll, hemit]
    rfl
  | cons first front ih =>
    obtain ⟨hfirst, hrest⟩ := Sink.takes_cons.mp h
    have hemit : Channel.emit (c.withSink (s.holding before)) first =
        (.ok (), c.withSink (s.holding (before ++ [first]))) := by
      simp only [Channel.emit, Wire.emit, Wire.withSink, Sink.put_of_takes hfirst]
    have hassoc : before ++ first :: front = before ++ [first] ++ front := List.append_cons ..
    rw [hassoc] at hlapse ⊢
    rw [List.cons_append, Run.emitAll, hemit]
    exact ih hrest hlapse

/-- An input that a run takes, whatever its sink: what becomes of the groups is what the step comes
to. -/
lemma step_withSink (h : b.received = (.ok input, c))
    (hopen : input ≠ .closed) :
    let e : Entry := ⟨b.session, c.clock, input⟩
    let delivered := Run.emitAll ⟨c.withSink s, e.result.1⟩ e.groups
    Run.step (b.withSink s) = (delivered.1.map fun _ => true, delivered.2) := by
  intro e delivered
  rw [Run.step, Run.receive_withSink, h]
  cases input with
  | line text => rfl
  | deadline => rfl
  | closed => exact absurd rfl hopen

lemma step_of_takes (before : List Group) (h : b.received = (.ok input, c))
    (hopen : input ≠ .closed)
    (htakes : s.Takes before (Entry.groups ⟨b.session, c.clock, input⟩)) :
    let e : Entry := ⟨b.session, c.clock, input⟩
    Run.step (b.withSink (s.holding before)) =
      (.ok true, Run.withSink ⟨c, e.next⟩ (s.holding (before ++ e.groups))) := by
  intro e
  rw [step_withSink h hopen, emitAll_of_takes htakes]
  rfl

lemma entry?_withSink (h : b.received = (.ok input, c)) :
    Run.entry? (b.withSink s) = some ⟨b.session, c.clock, input⟩ := by
  rw [Run.entry?, Run.receive_withSink, h]
  rfl

end Steps

/-! ### What a run takes in -/

/-- Only a read fails when a wire is asked for input. -/
lemma Wire.read_of_receive_error {deadline : Option Time} {w c : Wire} {fault : WireFault}
    (h : w.receive deadline = (.error fault, c)) : ∃ text, fault = .read text := by
  have hcomes := w.comes_receive deadline
  rw [h] at hcomes
  cases hcomes with
  | fault _ _ => exact ⟨_, rfl⟩

/-- The inputs that a run takes as long as its sink does not fail, how it ends, and what is left. -/
inductive Intake : Run Wire → List Entry → Except WireFault Unit → Run Wire → Prop where
  | close {b : Run Wire} {c : Wire}
      (receives : b.received = (.ok .closed, c)) :
      Intake b [] (.ok ()) ⟨c, b.session⟩
  | fault {b : Run Wire} {c : Wire} {text : String}
      (receives : b.received = (.error (.read text), c)) :
      Intake b [] (.error (.read text)) ⟨c, b.session⟩
  | take {b final : Run Wire} {c : Wire} {input : Input} {entries : List Entry}
      {ending : Except WireFault Unit}
      (receives : b.received = (.ok input, c))
      (open_ : input ≠ .closed)
      (rest : Intake ⟨c, Entry.next ⟨b.session, c.clock, input⟩⟩ entries ending final) :
      Intake b (⟨b.session, c.clock, input⟩ :: entries) ending final

lemma exists_intake (b : Run Wire) : ∃ entries ending final, Intake b entries ending final := by
  induction hn : b.remaining using Nat.strong_induction_on generalizing b with
  | _ n ih =>
    subst hn
    rcases hreceive : b.received with ⟨_ | input, c⟩
    · obtain ⟨text, rfl⟩ := Wire.read_of_receive_error hreceive
      exact ⟨_, _, _, .fault hreceive⟩
    · by_cases hclosed : input = .closed
      · subst hclosed
        exact ⟨_, _, _, .close hreceive⟩
      · -- A sink that does not fail lets the run take one step, which brings it closer to its end.
        have hstep := step_of_takes [] hreceive hclosed (Sink.takes_all _ _)
        have hlt := Run.remaining_step hstep
        obtain ⟨entries, ending, final, hrest⟩ :=
          ih _ hlt ⟨c, Entry.next ⟨b.session, c.clock, input⟩⟩ rfl
        exact ⟨_, _, _, .take hreceive hclosed hrest⟩

/-! ### Runs up to a lapse -/

section Runs

variable {b final r : Run Wire} {entries : List Entry} {ending : Except WireFault Unit} {s : Sink}
  {before : List Group} {n k : Nat} {lapse : Lapse}

lemma run_of_fault {fault : WireFault} {r' : Run Wire} (h : r.step = (.error fault, r')) :
    r.run = (.error fault, r') ∧ r.journal = [] := by
  constructor
  · rw [Run.run]
    split <;> simp_all
  · rw [Run.journal]
    split <;> simp_all

lemma step_of_closed {c : Wire}
    (h : b.received = (.ok .closed, c)) :
    Run.step (b.withSink s) = (.ok false, Run.withSink ⟨c, b.session⟩ s) := by
  rw [Run.step, Run.receive_withSink, h]
  rfl

lemma step_of_fault {c : Wire} {fault : WireFault}
    (h : b.received = (.error fault, c)) :
    Run.step (b.withSink s) = (.error fault, Run.withSink ⟨c, b.session⟩ s) := by
  rw [Run.step, Run.receive_withSink, h]
  rfl

/-- A run whose sink takes all groups takes in all inputs, up to the end. -/
lemma Intake.run_of_takes (before : List Group) (h : Intake b entries ending final)
    (htakes : s.Takes before (entries.flatMap Entry.groups)) :
    (b.withSink (s.holding before)).run =
        (ending, final.withSink (s.holding (before ++ entries.flatMap Entry.groups))) ∧
      (b.withSink (s.holding before)).journal = entries := by
  induction h generalizing before with
  | close hreceive =>
    rw [List.flatMap_nil, List.append_nil]
    exact ⟨Run.run_of_closed (step_of_closed hreceive),
      Run.journal_of_closed (step_of_closed hreceive)⟩
  | fault hreceive =>
    rw [List.flatMap_nil, List.append_nil]
    exact run_of_fault (step_of_fault hreceive)
  | take hreceive hopen _ ih =>
    rw [List.flatMap_cons, Sink.takes_append] at htakes
    obtain ⟨hrun, hjournal⟩ := ih _ htakes.2
    have hstep := step_of_takes _ hreceive hopen htakes.1
    rw [Run.run_of_open hstep, Run.journal_of_open hstep, entry?_withSink hreceive, hrun, hjournal,
      List.flatMap_cons, List.append_assoc]
    exact ⟨rfl, rfl⟩

lemma Intake.emitted (h : Intake b entries ending final) :
    final.session.tally.emitted =
      b.session.tally.emitted + (entries.flatMap Entry.groups).length := by
  induction h with
  | close _ => rfl
  | fault _ => rfl
  | @take b final c input entries ending _ _ _ ih =>
    have hcounts := Entry.emitted_next ⟨b.session, c.clock, input⟩
    rw [ih, hcounts, List.flatMap_cons, List.length_append, Nat.add_assoc]

/-- A run whose sink does not fail ends with the end of its input or with a read that fails. -/
lemma Intake.ending_ne_write (h : Intake b entries ending final) (text : String) :
    ending ≠ .error (.write text) := by
  induction h with
  | close _ => nofun
  | fault _ => nofun
  | take _ _ _ ih => exact ih

/-- A run that ends with a read that fails takes nothing in. -/
lemma Intake.of_fault {c : Wire} {fault : WireFault} (h : Intake b entries ending final)
    (hreceive : b.received = (.error fault, c)) : entries = [] := by
  cases h with
  | close _ => rfl
  | fault _ => rfl
  | take htake _ _ => rw [htake] at hreceive; cases hreceive

/-- A run ends as it does after some of its steps. -/
lemma run_of_after? {w : Run Wire} (h : w.after? n = some r) : w.run = r.run := by
  induction n generalizing w with
  | zero =>
    cases h
    rfl
  | succ n ih =>
    rw [Run.after?] at h
    split at h
    next hstep => exact (Run.run_of_open hstep).trans (ih h)
    next => cases h

/-- After some inputs a run stands where it would stand with any sink that takes their groups. -/
lemma Intake.after (before : List Group) (h : Intake b entries ending final)
    (hafter : (b.withSink (s.holding before)).after? n = some r) :
    ∃ base, r = base.withSink (s.holding (before ++ (entries.take n).flatMap Entry.groups)) ∧
      Intake base (entries.drop n) ending final ∧ n ≤ entries.length ∧
      base.session.tally.emitted =
        b.session.tally.emitted + ((entries.take n).flatMap Entry.groups).length ∧
      (b.withSink (({} : Sink).holding before)).after? n =
        some (base.withSink
          (({} : Sink).holding (before ++ (entries.take n).flatMap Entry.groups))) := by
  induction n generalizing before b entries with
  | zero =>
    cases hafter
    exact ⟨b, by simp, h, Nat.zero_le _, rfl, by simp [Run.after?]⟩
  | succ n ih =>
    cases h with
    | close hreceive =>
      rw [Run.after?, step_of_closed hreceive] at hafter
      cases hafter
    | fault hreceive =>
      rw [Run.after?, step_of_fault hreceive] at hafter
      cases hafter
    | @take _ _ c input entries _ hreceive hopen hrest =>
      rcases s.takes_or_exists_lapse before (Entry.groups ⟨b.session, c.clock, input⟩) with
        htakes | ⟨front, group, back, lapse, hgroups, htakes, hlapse⟩
      · rw [Run.after?, step_of_takes _ hreceive hopen htakes] at hafter
        obtain ⟨base, rfl, hbase, hle, hemitted, hsound⟩ := ih _ hrest hafter
        have hcounts := Entry.emitted_next ⟨b.session, c.clock, input⟩
        refine ⟨base, by simp, hbase, Nat.succ_le_succ hle, ?_, ?_⟩
        · rw [hemitted, hcounts, List.take_succ_cons, List.flatMap_cons, List.length_append,
            Nat.add_assoc]
        · have hstep := step_of_takes before hreceive hopen (Sink.takes_all _ _)
          rw [Run.after?, hstep, List.take_succ_cons, List.flatMap_cons, ← List.append_assoc]
          exact hsound
      · -- A sink that fails ends the run.
        rw [Run.after?, step_withSink hreceive hopen, hgroups,
          emitAll_of_lapse htakes hlapse] at hafter
        cases hafter

/-- How a run ends whose sink fails with the group of a number. -/
structure Run.BreaksOff (w : Run Wire) (groups : List Group) (k : Nat) (lapse : Lapse) : Prop where
  fault : w.run.1 = .error lapse.fault
  /-- The groups before are written, and the group itself is if it has failed to be flushed. -/
  written : w.run.2.channel.sink.written = (groups.take (lapse.writes k)).map Directive.render
  flushes : w.run.2.channel.sink.flushes = k
  emitted : w.run.2.session.tally.emitted = k
  /-- The group is one of those that the last input has called for, and since then nothing has been
  read: the wire is left as it was when it had brought that input, its sink apart. -/
  unread : ∃ n r input c, w.after? n = some r ∧ r.received = (.ok input, c) ∧
    r.session.tally.emitted ≤ k ∧
    k < r.session.tally.emitted + (Entry.groups ⟨r.session, c.clock, input⟩).length ∧
    w.run.2.channel = c.withSink w.run.2.channel.sink

/-- A run breaks off as it does after its first step. -/
lemma Run.BreaksOff.of_step {w w' : Run Wire} {groups : List Group}
    (hstep : w.step = (.ok true, w')) (h : w'.BreaksOff groups k lapse) :
    w.BreaksOff groups k lapse := by
  have hrun : w.run = w'.run := Run.run_of_open hstep
  obtain ⟨n, r, input, c, hafter, hreceived, hunread⟩ := h.unread
  refine ⟨?_, ?_, ?_, ?_, n + 1, r, input, c, ?_, hreceived, ?_⟩
  · rw [hrun]
    exact h.fault
  · rw [hrun]
    exact h.written
  · rw [hrun]
    exact h.flushes
  · rw [hrun]
    exact h.emitted
  · rw [Run.after?, hstep]
    exact hafter
  · rw [hrun]
    exact hunread

/-- A run breaks off when its sink fails with a group of its first input. -/
lemma breaksOff_of_lapse {c : Wire} {input : Input} {front back later : List Group} {group : Group}
    (hreceive : b.received = (.ok input, c)) (hopen : input ≠ .closed)
    (hgroups : Entry.groups ⟨b.session, c.clock, input⟩ = front ++ group :: back)
    (hemitted : b.session.tally.emitted = before.length) (htakes : s.Takes before front)
    (hlapse : s.lapse? (before ++ front).length = some lapse) :
    (b.withSink (s.holding before)).BreaksOff (before ++ (front ++ group :: back) ++ later)
      (before ++ front).length lapse := by
  have hstep : Run.step (b.withSink (s.holding before)) = _ := step_withSink hreceive hopen
  rw [hgroups, emitAll_of_lapse htakes hlapse] at hstep
  have hrun := (run_of_fault hstep).1
  have hsplit : before ++ (front ++ group :: back) ++ later =
      before ++ front ++ [group] ++ (back ++ later) := by simp
  have hle : lapse.writes (before ++ front).length ≤ (before ++ front ++ [group]).length := by
    cases lapse <;> simp [Lapse.writes]
  refine ⟨by rw [hrun], ?_, by rw [hrun]; rfl, ?_, 0, _, input, c.withSink (s.holding before), rfl,
    ?_, ?_, ?_, ?_⟩
  · rw [hrun, hsplit, List.take_append_of_le_length hle]
    rfl
  · have hcounts := (Entry.counts_result ⟨b.session, c.clock, input⟩).emitted
    rw [hrun, List.length_append, ← hemitted]
    exact (congrArg Tally.emitted (Entry.tally_counted front _)).trans
      (congrArg (· + front.length) hcounts)
  · exact (Run.receive_withSink b _).trans (by rw [hreceive])
  · show b.session.tally.emitted ≤ _
    rw [hemitted, List.length_append]
    exact Nat.le_add_right ..
  · show _ < b.session.tally.emitted + (Entry.groups ⟨b.session, c.clock, input⟩).length
    rw [hgroups, hemitted, List.length_append, List.length_append, List.length_cons]
    omega
  · rw [hrun]
    rfl

lemma Intake.breaksOff (before : List Group) (h : Intake b entries ending final)
    (hemitted : b.session.tally.emitted = before.length)
    (hk : k < (entries.flatMap Entry.groups).length)
    (hbefore : ∀ j < k, s.lapse? (before.length + j) = none)
    (hlapse : s.lapse? (before.length + k) = some lapse) :
    (b.withSink (s.holding before)).BreaksOff (before ++ entries.flatMap Entry.groups)
      (before.length + k) lapse := by
  induction h generalizing before k with
  | close _ => simp at hk
  | fault _ => simp at hk
  | @take b final c input entries ending hreceive hopen _ ih =>
    rw [List.flatMap_cons] at hk ⊢
    rw [← List.append_assoc]
    rcases s.takes_or_exists_lapse before (Entry.groups ⟨b.session, c.clock, input⟩) with
      htakes | ⟨front, group, back, lapse', hgroups, htakes, hlapse'⟩
    · -- The sink fails later: with a group of another input.
      have hle : (Entry.groups ⟨b.session, c.clock, input⟩).length ≤ k := by
        by_contra hlt
        have hnone := htakes k (Nat.not_le.mp hlt)
        cases hnone.symm.trans hlapse
      obtain ⟨k, rfl⟩ := Nat.exists_eq_add_of_le hle
      have hcounts := Entry.emitted_next ⟨b.session, c.clock, input⟩
      have hrest := ih (k := k) (before ++ Entry.groups ⟨b.session, c.clock, input⟩)
        (by rw [hcounts, List.length_append, ← hemitted])
        (by rw [List.length_append] at hk; omega)
        (fun j hj => by
          rw [List.length_append, Nat.add_assoc]
          exact hbefore _ (Nat.add_lt_add_left hj _))
        (by rwa [List.length_append, Nat.add_assoc])
      rw [List.length_append, Nat.add_assoc] at hrest
      exact hrest.of_step (step_of_takes _ hreceive hopen htakes)
    · rw [List.length_append] at hlapse'
      obtain rfl : front.length = k := by
        rcases Nat.lt_trichotomy front.length k with hlt | heq | hlt
        · cases (hbefore _ hlt).symm.trans hlapse'
        · exact heq
        · cases (htakes _ hlt).symm.trans hlapse
      cases hlapse.symm.trans hlapse'
      rw [← List.length_append] at hlapse ⊢
      rw [hgroups]
      exact breaksOff_of_lapse hreceive hopen hgroups hemitted htakes hlapse

end Runs

/-! ### Whole runs -/

/-- A run with a new arbiter on a wire with this source and this sink. -/
def Run.fed (config : Config) (source : List Signal) (sink : Sink) : Run Wire :=
  ⟨{ source := source, sink := sink }, Session.new config⟩

/--
Let `groups` be what a run writes to a sink that never fails. It writes and flushes all of them, be
it to the end of its input or up to a read that fails. With a sink that may fail, all groups of the
inputs so far are written and flushed whenever the next input is asked for, and these inputs are the
same; if that read fails then the run ends with that fault. If the sink does not fail with one of the
groups then the run is the same but for the sink. And if it fails with one then the run breaks off
there: the groups before are written and flushed, and nothing is read or written any more.
-/
theorem run_breaksOff (config : Config) (source : List Signal) (sink : Sink) :
    let v := Run.fed config source {}
    let w := Run.fed config source (sink.holding [])
    let groups := v.journal.flatMap Entry.groups
    (v.run.2.channel.sink = ({} : Sink).holding groups ∧
      v.run.2.session.tally.emitted = groups.length ∧ ∀ text, v.run.1 ≠ .error (.write text)) ∧
    (∀ n r, w.after? n = some r →
      let earlier := (v.journal.take n).flatMap Entry.groups
      r.channel.sink = sink.holding earlier ∧ r.session.tally.emitted = earlier.length ∧
      v.after? n = some (r.withSink (({} : Sink).holding earlier)) ∧
      ∀ fault c, r.received = (.error fault, c) →
        w.run = (.error fault, ⟨c, r.session⟩) ∧ c.sink = sink.holding groups) ∧
    (sink.Takes [] groups → w.run = (v.run.1, v.run.2.withSink (sink.holding groups))) ∧
    ∀ k lapse, k < groups.length → (∀ j < k, sink.lapse? j = none) →
      sink.lapse? k = some lapse → w.BreaksOff groups k lapse := by
  intro v w groups
  obtain ⟨entries, ending, final, h⟩ := exists_intake v
  obtain ⟨hrun, hjournal⟩ := h.run_of_takes [] (Sink.takes_all _ _)
  change v.run = (ending, final.withSink (({} : Sink).holding (entries.flatMap Entry.groups)))
    at hrun
  change v.journal = entries at hjournal
  subst hjournal
  refine ⟨⟨?_, ?_, ?_⟩, ?_, ?_, ?_⟩
  · rw [hrun]
    rfl
  · rw [hrun]
    exact h.emitted.trans (Nat.zero_add _)
  · rw [hrun]
    exact h.ending_ne_write
  · intro n r hafter earlier
    obtain ⟨base, rfl, hbase, -, hemitted, hsound⟩ := h.after [] hafter
    refine ⟨rfl, hemitted.trans (Nat.zero_add _), hsound, fun fault c hreceived => ?_⟩
    -- The read fails whatever the sink is, so that no input is left.
    have hwire :
        (base.received.1, base.received.2.withSink (sink.holding earlier)) = (.error fault, c) :=
      (Run.receive_withSink base _).symm.trans hreceived
    obtain ⟨hfault, rfl⟩ := Prod.mk.inj hwire
    have hreceive : base.received = (.error fault, base.received.2) := by rw [← hfault]
    have hall : v.journal.take n = v.journal :=
      List.take_of_length_le (List.drop_eq_nil_iff.mp (hbase.of_fault hreceive))
    refine ⟨(run_of_after? hafter).trans (run_of_fault (step_of_fault hreceive)).1, ?_⟩
    show sink.holding earlier = sink.holding groups
    simp only [earlier, groups, hall]
  · intro htakes
    rw [hrun]
    exact (h.run_of_takes [] htakes).1
  · intro k lapse hk hbefore hlapse
    have hbreaks := h.breaksOff [] rfl hk (by simpa using hbefore) (by simpa using hlapse)
    rw [List.nil_append, List.length_nil, Nat.zero_add] at hbreaks
    exact hbreaks

end LightArbiter
