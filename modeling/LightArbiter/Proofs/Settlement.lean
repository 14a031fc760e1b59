import LightArbiter.Proofs.Timing

/-!
# Settlement of a run

A run on a script ends: each line and each end of a window is a step, and there are no more windows
than lines. At the end nothing waits, the light shows what the readings call for, and the tally says
what became of the lines.
-/

namespace LightArbiter

/-! ### Steps up to the end -/

namespace Run

variable {σ ε : Type} [Channel σ ε] {r final : Run σ}

/-- The run after some steps, if the channel is open after each of them. -/
def after? (r : Run σ) : Nat → Option (Run σ)
  | 0 => some r
  | n + 1 =>
    match step r with
    | (.ok true, r') => r'.after? n
    | _ => none

/-- A run that succeeds takes a bounded number of steps, and then one more that finds the channel
closed. -/
lemma exists_last_step (h : run r = (.ok (), final)) :
    ∃ n last, n ≤ r.remaining ∧ r.after? n = some last ∧ step last = (.ok false, final) := by
  induction hn : r.remaining using Nat.strong_induction_on generalizing r with
  | _ k ih =>
    subst hn
    rw [run] at h
    split at h
    · rename_i r' hstep
      have hlt := remaining_step hstep
      obtain ⟨n, last, hle, hafter, hlast⟩ := ih _ hlt h rfl
      refine ⟨n + 1, last, Nat.lt_of_le_of_lt hle hlt, ?_, hlast⟩
      rw [after?, hstep]
      exact hafter
    · rename_i r' hstep
      cases h
      exact ⟨0, r, Nat.zero_le _, rfl, hstep⟩
    · cases h

end Run

/-! ### Times of a journal -/

/-- The last of some times, or the start if there are none. -/
def lastTime (times : List Time) : Time := times.getLast?.getD 0

section Times

variable {times : List Time} {t : Time}

@[simp] lemma lastTime_concat : lastTime (times ++ [t]) = t := by simp [lastTime]

lemma lastTime_le (h : ∀ time ∈ times, time ≤ t) : lastTime times ≤ t := by
  rw [lastTime]
  cases hlast : times.getLast? with
  | none => exact Nat.zero_le t
  | some time => exact h time (List.mem_of_getLast? hlast)

/-- The last of times in order is the later one of the last among those of a kind and the last among
the others. -/
lemma lastTime_eq_max {α : Type} {entries : List α} {time : α → Time} (p : α → Bool)
    (h : entries.Pairwise fun e later => time e ≤ time later) :
    lastTime (entries.map time) =
      max (lastTime ((entries.filter p).map time))
        (lastTime ((entries.filter fun e => !p e).map time)) := by
  cases entries using List.reverseRecOn with
  | nil => rfl
  | append_singleton entries e =>
    have hbefore : ∀ q : α → Bool, lastTime ((entries.filter q).map time) ≤ time e := by
      intro q
      apply lastTime_le
      intro t ht
      obtain ⟨x, hx, rfl⟩ := List.mem_map.mp ht
      have hmem : x ∈ entries := (List.mem_filter.mp hx).1
      exact (List.pairwise_append.mp h).2.2 x hmem e (List.mem_singleton_self e)
    rw [List.filter_append, List.filter_append, List.map_append, List.map_singleton,
      lastTime_concat]
    cases hp : p e with
    | true => simp [hp, hbefore]
    | false => simp [hp, hbefore]

lemma foldl_time_eq (entries : List Entry) :
    entries.foldl (fun _ e => e.time) 0 = lastTime (entries.map Entry.time) := by
  cases entries using List.reverseRecOn with
  | nil => rfl
  | append_singleton entries e => simp

end Times

/-- Does every input come at or after a time, and none before the input in front of it? -/
def Entry.SortedFrom (start : Time) (entries : List Entry) : Prop :=
  (∀ e ∈ entries, start ≤ e.time) ∧ entries.Pairwise fun e later => e.time ≤ later.time

lemma Entry.SortedFrom.cons {start : Time} {e : Entry} {entries : List Entry}
    (h : SortedFrom e.time entries) (hstart : start ≤ e.time) :
    SortedFrom start (e :: entries) := by
  refine ⟨?_, List.pairwise_cons.mpr h⟩
  rw [List.forall_mem_cons]
  exact ⟨hstart, fun later hlater => hstart.trans (h.1 later hlater)⟩

lemma Agenda.sorted {s t : Session} {cues : List Cue} {entries : List Entry} {start : Time}
    (h : Agenda s cues entries t) (hcues : Cue.SortedFrom start cues)
    (hpunctual : s.arbiter.PunctualAt start) : Entry.SortedFrom start entries := by
  induction h generalizing start with
  | close _ => exact ⟨by simp, List.Pairwise.nil⟩
  | @expire s t cues entries d hpending hdue _ ih =>
    have hnow : s.arbiter.PunctualAt d := by
      intro d' hd'
      exact (Option.some.inj (hpending.symm.trans hd')).le
    have hnext := Entry.punctualAt_next (e := ⟨s, d, .deadline⟩) hnow
    exact (ih (hcues.mono hdue) hnext).cons (hpunctual d hpending)
  | @line s t cue cues entries hearly _ ih =>
    have hnow : s.arbiter.PunctualAt cue.time := fun d hd => (hearly d hd).le
    have hnext := Entry.punctualAt_next (e := ⟨s, cue.time, .line cue.line⟩) hnow
    exact (ih hcues.2 hnext).cons hcues.1

/-! ### Tallies -/

/-- Is the line not blank, and yet no command? -/
def isGarbled (line : String) : Bool :=
  !isBlankLine line && Command.ofLine line matches .error _

namespace Tally

/--
What is counted between two tallies, with these lines taken and so many groups written. A line that
is not blank is counted besides as no command, or as a refused one, or as neither.
-/
structure Counts (before after : Tally) (taken : List String) (groups : Nat) : Prop where
  lines : after.lines = before.lines + taken.countP fun line => !isBlankLine line
  unparsable : after.unparsable = before.unparsable + taken.countP isGarbled
  bad : after.unparsable + after.rejected + before.lines ≤
    before.unparsable + before.rejected + after.lines
  emitted : after.emitted = before.emitted + groups

variable {before between after : Tally} {taken later : List String} {groups groups' : Nat}

lemma counts_refl (tally : Tally) : Counts tally tally [] 0 :=
  ⟨rfl, rfl, Nat.le_refl _, rfl⟩

lemma Counts.trans (h : Counts before between taken groups)
    (h' : Counts between after later groups') :
    Counts before after (taken ++ later) (groups + groups') where
  lines := by rw [h'.lines, h.lines, List.countP_append, Nat.add_assoc]
  unparsable := by rw [h'.unparsable, h.unparsable, List.countP_append, Nat.add_assoc]
  bad := by
    have := h.bad
    have := h'.bad
    omega
  emitted := by rw [h'.emitted, h.emitted, Nat.add_assoc]

end Tally

lemma Session.tally_handle (s : Session) (now : Time) (command : Command) :
    (s.handle now command).1.tally = s.tally ∨
      (s.handle now command).1.tally = { s.tally with rejected := s.tally.rejected + 1 } := by
  rw [handle]
  split
  · exact .inl rfl
  · exact .inr rfl

lemma Session.tally_tick (s : Session) (now : Time) :
    (s.countLine.tick now).1.tally = { s.tally with lines := s.tally.lines + 1 } := rfl

lemma Session.counts_takeLine (s : Session) (now : Time) (line : String) :
    Tally.Counts s.tally (s.takeLine now line).1.tally [line] 0 := by
  rw [takeLine]
  cases hblank : isBlankLine line with
  | true => exact ⟨by simp [hblank], by simp [isGarbled, hblank], Nat.le_refl _, rfl⟩
  | false =>
    simp only [obey, Bool.false_eq_true, if_false]
    cases hcommand : Command.ofLine line with
    | error bad =>
      have hgarbled : isGarbled line = true := by simp [isGarbled, hblank, hcommand]
      simp only [countUnparsable, tally_tick]
      exact ⟨by simp [hblank], by simp [hgarbled], by simp only; omega, rfl⟩
    | ok command =>
      have hgarbled : isGarbled line = false := by simp [isGarbled, hcommand]
      rcases tally_handle (s.countLine.tick now).1 now command with htally | htally
      · simp only [htally, tally_tick]
        exact ⟨by simp [hblank], by simp [hgarbled], by simp only; omega, rfl⟩
      · simp only [htally, tally_tick]
        exact ⟨by simp [hblank], by simp [hgarbled], by simp only; omega, rfl⟩

namespace Entry

lemma tally_counted (groups : List Group) (s : Session) :
    (groups.foldl (fun s _ => s.countEmitted) s).tally =
      { s.tally with emitted := s.tally.emitted + groups.length } := by
  induction groups generalizing s with
  | nil => rfl
  | cons group groups ih =>
    rw [List.foldl_cons, ih, List.length_cons, Nat.add_comm groups.length, ← Nat.add_assoc]
    rfl

lemma counts_result (e : Entry) :
    Tally.Counts e.session.tally e.result.1.tally (e.cue?.toList.map Cue.line) 0 := by
  obtain ⟨s, now, input⟩ := e
  cases input with
  | line text => exact s.counts_takeLine now text
  | deadline => exact s.tally.counts_refl
  | closed => exact s.tally.counts_refl

lemma counts_next (e : Entry) :
    Tally.Counts e.session.tally e.next.tally (e.cue?.toList.map Cue.line) e.emissions.length := by
  have h := e.counts_result
  rw [next, tally_counted]
  refine ⟨h.lines, h.unparsable, h.bad, ?_⟩
  rw [h.emitted, emissions, List.length_map]
  rfl

end Entry

/-! ### The end of an agenda -/

/-- The deadline that has passed, if it is the end of a window that comes. -/
def Entry.fired? (e : Entry) : Option Time :=
  match e.input with
  | .line _ => none
  | .deadline => e.arbiter.deadline
  | .closed => none

namespace Agenda

variable {s t : Session} {cues : List Cue} {entries : List Entry}

lemma counts (h : Agenda s cues entries t) :
    Tally.Counts s.tally t.tally (cues.map Cue.line) (entries.flatMap Entry.emissions).length := by
  induction h with
  | close _ => exact Tally.counts_refl _
  | @expire s t cues entries d _ _ _ ih =>
    rw [List.flatMap_cons, List.length_append]
    exact (Entry.counts_next ⟨s, d, .deadline⟩).trans ih
  | @line s t cue cues entries _ _ ih =>
    rw [List.flatMap_cons, List.length_append]
    exact (Entry.counts_next ⟨s, cue.time, .line cue.line⟩).trans ih

/-- At the end of an agenda nothing waits, and the light shows what it should. -/
lemma committed_eq_target (h : Agenda s cues entries t) (hs : Arbiter.Coherent s.arbiter) :
    t.arbiter.window.pending = none ∧ t.arbiter.committed = t.arbiter.target := by
  induction h with
  | @close s hidle =>
    have hclear : s.arbiter.window.pending = none := Option.map_eq_none_iff.mp hidle
    exact ⟨hclear, hs.waiting.mp hclear⟩
  | @expire s t cues entries d _ _ _ ih =>
    exact ih (Entry.coherent_next (e := ⟨s, d, .deadline⟩) hs)
  | @line s t cue cues entries _ _ ih =>
    exact ih (Entry.coherent_next (e := ⟨s, cue.time, .line cue.line⟩) hs)

lemma fired_eq (h : Agenda s cues entries t) :
    (entries.filter fun e => e.input = .deadline).map Entry.time =
      entries.filterMap Entry.fired? := by
  induction h with
  | close _ => rfl
  | expire hpending _ _ ih => simp [Entry.fired?, Entry.arbiter, hpending, ih]
  | line _ _ ih =>
    rw [List.filterMap_cons_none rfl]
    simpa using ih

lemma times_eq (h : Agenda s cues entries t) :
    (entries.filter fun e => !decide (e.input = .deadline)).map Entry.time =
      cues.map Cue.time := by
  induction h with
  | close _ => rfl
  | expire _ _ _ ih => simpa using ih
  | line _ _ ih => simpa using ih

/-- The last thing that comes is a line or the end of a window. -/
lemma lastTime_eq (h : Agenda s cues entries t) (hcues : Cue.SortedFrom 0 cues) :
    lastTime (entries.map Entry.time) =
      max (lastTime (cues.map Cue.time)) (lastTime (entries.filterMap Entry.fired?)) := by
  have hsorted := (h.sorted hcues fun d _ => Nat.zero_le d).2
  rw [lastTime_eq_max (fun e => e.input = .deadline) hsorted, h.fired_eq, h.times_eq, Nat.max_comm]

end Agenda

/-! ### The end of a run -/

lemma Rehearsal.lines_pushAll {s : Rehearsal} {script : List Cue} :
    (s.pushAll script).queue.map Cue.line = s.queue.map Cue.line ++ script.map Cue.line := by
  induction script generalizing s with
  | nil => exact (List.append_nil _).symm
  | cons cue script ih =>
    calc ((s.push cue.time cue.line).pushAll script).queue.map Cue.line
        = (s.push cue.time cue.line).queue.map Cue.line ++ script.map Cue.line := ih
      _ = s.queue.map Cue.line ++ (cue :: script).map Cue.line := by simp [push]

lemma Rehearsal.lines_ofScript (script : List Cue) :
    (ofScript script).queue.map Cue.line = script.map Cue.line :=
  lines_pushAll (s := {})

lemma Run.remaining_ofScript (config : Config) (script : List Cue) :
    (Run.ofScript config script).remaining = 2 * script.length := by
  have hlength : (Rehearsal.ofScript script).queue.length = script.length := by
    simpa using congrArg List.length (Rehearsal.lines_ofScript script)
  exact congrArg (2 * ·) hlength

/-- What a run on a script is like when it has come to its end. -/
structure Run.Settled (script : List Cue) (r final : Run Rehearsal) : Prop where
  drained : final.channel.queue = []
  /-- Every line was taken, at its time. -/
  taken : r.journal.filterMap Entry.cue? = r.channel.queue
  clear : final.session.arbiter.window.pending = none
  shown : final.session.arbiter.committed = final.session.arbiter.target
  /-- The clock stands at the last line or at the end of the last window. -/
  clock : final.channel.clock =
    max (lastTime (r.channel.queue.map Cue.time)) (lastTime (r.journal.filterMap Entry.fired?))
  unmoved : script = [] → final.channel.clock = 0
  lines : final.session.tally.lines =
    (script.map Cue.line).countP fun line => !isBlankLine line
  unparsable : final.session.tally.unparsable = (script.map Cue.line).countP isGarbled
  bad : final.session.tally.unparsable + final.session.tally.rejected ≤ final.session.tally.lines
  emitted : final.session.tally.emitted = final.channel.emissions.length

section Endings

variable {config : Config} {script : List Cue} {final : Run Rehearsal}

lemma Run.clock_ofScript
    (h : EndsIn Rehearsal.Serves (Run.ofScript config script) (Rehearsal.ofScript script).queue []
      final) :
    final.channel.clock = max (lastTime ((Rehearsal.ofScript script).queue.map Cue.time))
      (lastTime ((Run.ofScript config script).journal.filterMap Entry.fired?)) := by
  have hsorted := (Rehearsal.serves_ofScript script).2.2
  rw [Rehearsal.clock_ofScript] at hsorted
  calc final.channel.clock
      = (Run.ofScript config script).journal.foldl (fun _ e => e.time)
          (Rehearsal.ofScript script).clock := h.clock
    _ = lastTime ((Run.ofScript config script).journal.map Entry.time) := by
      rw [Rehearsal.clock_ofScript, foldl_time_eq]
    _ = _ := h.agenda.lastTime_eq hsorted

lemma Run.settled_ofScript
    (h : EndsIn Rehearsal.Serves (Run.ofScript config script) (Rehearsal.ofScript script).queue []
      final) : Settled script (Run.ofScript config script) final := by
  obtain ⟨hdrained, hlog, -⟩ := h.served
  obtain ⟨hclear, hshown⟩ := h.agenda.committed_eq_target (Arbiter.coherent_new config)
  have hcounts : Tally.Counts {} final.session.tally (script.map Cue.line)
      final.channel.emissions.length := by
    rw [hlog, ← Rehearsal.lines_ofScript]
    exact h.agenda.counts
  refine ⟨hdrained, h.agenda.cues_eq, hclear, hshown, Run.clock_ofScript h, ?_,
    by simpa using hcounts.lines, by simpa using hcounts.unparsable, by simpa using hcounts.bad,
    by simpa using hcounts.emitted⟩
  rintro rfl
  obtain ⟨hjournal, -⟩ := h.agenda.of_idle rfl
  rw [Run.clock_ofScript h, hjournal]
  rfl

end Endings

/--
A run on a script ends: after at most two steps for each line comes one that finds the channel
closed. Then all lines are taken and nothing waits, and the light shows what the readings, the
directory and the owner before call for.
-/
theorem run_settles (config : Config) (script : List Cue) :
    let r := Run.ofScript config script
    ∃ n last final, n ≤ 2 * script.length ∧ r.after? n = some last ∧
      last.step = (.ok false, final) ∧ r.run = (.ok (), final) ∧ r.Settled script final := by
  intro r
  obtain ⟨final, h⟩ := Run.endsIn_ofScript config script
  obtain ⟨n, last, hle, hafter, hlast⟩ := Run.exists_last_step h.run
  rw [Run.remaining_ofScript] at hle
  exact ⟨n, last, final, hle, hafter, hlast, h.run, Run.settled_ofScript h⟩

-- Two lines may take three steps: the end of the window after the departure is one.
example :
    let script : List Cue := [⟨0, "sensor_occupied hall true"⟩, ⟨5, "sensor_occupied hall false"⟩]
    ((Run.ofScript {} script).after? 3).map (fun r => (r.channel.clock, r.session.tally)) =
      some (3005, ⟨2, 0, 0, 2⟩) := by
  decide

end LightArbiter
