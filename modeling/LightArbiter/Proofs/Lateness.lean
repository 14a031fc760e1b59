import LightArbiter.Proofs.Settlement

/-!
# Later runs

Only differences of times matter. If all lines of a script come later by the same time, then all
that is written is written later by that time, and nothing else changes. A rehearsal starts its clock
at zero in any case, so what is later is only what its lines bring about: the windows, whose ends
stay as far from the lines as they were.
-/

namespace LightArbiter

variable {k : Time}

/-! ### What comes later -/

/-- The line, so much later. -/
def Cue.later (k : Time) (cue : Cue) : Cue := { cue with time := cue.time + k }

/-- The group, written so much later. -/
def Emission.later (k : Time) (emission : Emission) : Emission :=
  { emission with time := emission.time + k }

/-- The window, ending so much later. -/
def Window.later (k : Time) (window : Window) : Window where
  pending := window.pending.map fun deferral => { deferral with deadline := deferral.deadline + k }

/-- The arbiter whose window ends so much later. -/
def Arbiter.later (k : Time) (a : Arbiter) : Arbiter := { a with window := a.window.later k }

def Session.later (k : Time) (s : Session) : Session := { s with arbiter := s.arbiter.later k }

/-- The input, so much later, to a session whose window ends so much later. -/
def Entry.later (k : Time) (e : Entry) : Entry := ⟨e.session.later k, e.time + k, e.input⟩

/-! ### Arbiters -/

namespace Arbiter

variable {a : Arbiter} {candidate : Option UserRecord} {now : Time}

lemma deadline_later : (a.later k).deadline = a.deadline.map (· + k) := by
  show (a.window.pending.map _).map _ = (a.window.pending.map _).map _
  rw [Option.map_map, Option.map_map]
  rfl

lemma later_eq_self (h : a.window.pending = none) : a.later k = a := by
  obtain ⟨config, light, directory, occupancy, display, ⟨pending⟩⟩ := a
  cases h
  rfl

/-- A commit leaves nothing waiting, so that what waited before does not matter. -/
lemma commit_later :
    (a.later k).commit candidate = ((a.commit candidate).1.later k, (a.commit candidate).2) := rfl

lemma tick_later : (a.later k).tick (now + k) = ((a.tick now).1.later k, (a.tick now).2) := by
  by_cases hquiet : a.Quiet now
  · have hquiet' : (a.later k).Quiet (now + k) := by
      simpa [Quiet, later, Window.later] using hquiet
    rw [tick_of_early hquiet, tick_of_early hquiet']
  · obtain ⟨deferral, hp, hdue⟩ := not_quiet.mp hquiet
    have hp' : (a.later k).window.pending =
        some { deferral with deadline := deferral.deadline + k } := by
      simp [later, Window.later, hp]
    rw [tick_of_due hp hdue, tick_of_due hp' (Nat.add_le_add_right hdue k)]
    exact commit_later

lemma postpone_later :
    (a.later k).postpone candidate (now + k) = (a.postpone candidate now).later k := by
  have hdeadline : now + k + a.config.debounce = now + a.config.debounce + k :=
    Nat.add_right_comm ..
  simp only [postpone]
  split_ifs with hshows hshows' hshows'
  · rfl
  · exact absurd hshows hshows'
  · exact absurd hshows' hshows
  · show { a with window := Window.schedule candidate (now + k + a.config.debounce) } = _
    rw [hdeadline]
    rfl

lemma reload_later (records : List UserRecord) :
    (a.later k).reload records = ((a.reload records).1.later k, (a.reload records).2) := by
  rw [reload, reload]
  cases Directory.ofRecords records <;> rfl

lemma claim_later (userId : String) :
    (a.later k).claim userId = ((a.claim userId).1.later k, (a.claim userId).2) := by
  have hclaimant : (a.later k).claimant userId = a.claimant userId := rfl
  rw [claim, claim, hclaimant]
  cases a.claimant userId <;> rfl

lemma sensorChanged_later (sensorId : String) (occupied : Bool) :
    (a.later k).sensorChanged sensorId occupied (now + k) =
      ((a.sensorChanged sensorId occupied now).1.later k,
        (a.sensorChanged sensorId occupied now).2) := by
  cases occupied with
  | true => rfl
  | false =>
    have h : ((a.noting sensorId false).later k).postpone (a.noting sensorId false).successor
        (now + k) = _ := postpone_later
    exact congrArg (·, none) h

lemma handle_later (command : Command) :
    (a.later k).handle (now + k) command =
      ((a.handle now command).1.later k, (a.handle now command).2) := by
  cases command with
  | location position => rfl
  | ownership records => exact reload_later records
  | sensorOccupied sensorId occupied => simp only [handle, sensorChanged_later]
  | claim userId => exact claim_later userId

end Arbiter

/-! ### Sessions and entries -/

namespace Session

variable {s : Session} {now : Time}

lemma tick_later : (s.later k).tick (now + k) = ((s.tick now).1.later k, (s.tick now).2) := by
  have htick : (s.later k).arbiter.tick (now + k) = _ := Arbiter.tick_later
  simp only [tick, htick]
  rfl

lemma handle_later (command : Command) :
    (s.later k).handle (now + k) command =
      ((s.handle now command).1.later k, (s.handle now command).2) := by
  have hhandle : (s.later k).arbiter.handle (now + k) command = _ := Arbiter.handle_later command
  rw [handle, handle, hhandle]
  rcases s.arbiter.handle now command with ⟨a, answer⟩
  cases answer <;> rfl

lemma obey_later (line : String) :
    (s.later k).obey (now + k) line = ((s.obey now line).1.later k, (s.obey now line).2) := by
  rw [obey, obey]
  cases Command.ofLine line with
  | ok command => exact handle_later command
  | error bad => rfl

lemma takeLine_later (line : String) :
    (s.later k).takeLine (now + k) line =
      ((s.takeLine now line).1.later k, (s.takeLine now line).2) := by
  have htick : (s.later k).countLine.tick (now + k) = _ := tick_later (s := s.countLine)
  simp only [takeLine, htick, obey_later]
  split_ifs <;> rfl

end Session

namespace Entry

variable {e : Entry}

lemma result_later : (e.later k).result = (e.result.1.later k, e.result.2) := by
  obtain ⟨s, now, input⟩ := e
  cases input with
  | line text => exact Session.takeLine_later text
  | deadline => exact Session.tick_later
  | closed => rfl

lemma emissions_later : (e.later k).emissions = e.emissions.map (Emission.later k) := by
  rw [emissions, emissions, result_later, List.map_map]
  rfl

lemma next_later : (e.later k).next = e.next.later k := by
  rw [next, next, result_later]
  -- Counting does not look at the arbiter.
  generalize e.result.1 = s
  induction e.result.2 generalizing s with
  | nil => rfl
  | cons group groups ih => exact ih s.countEmitted

lemma Early.later (h : e.Early) : (e.later k).Early := by
  intro d hd
  rw [show (e.later k).arbiter.deadline = _ from Arbiter.deadline_later, Option.map_eq_some_iff] at hd
  obtain ⟨d, hd, rfl⟩ := hd
  exact Nat.add_lt_add_right (h d hd) k

end Entry

/-! ### Agendas -/

/-- What comes later by the same time keeps to the agenda later by that time. -/
lemma Agenda.later {s t : Session} {cues : List Cue} {entries : List Entry}
    (h : Agenda s cues entries t) :
    Agenda (s.later k) (cues.map (Cue.later k)) (entries.map (Entry.later k)) (t.later k) := by
  induction h with
  | @close s hidle =>
    have hidle' : (s.later k).arbiter.deadline = none := by
      rw [show (s.later k).arbiter.deadline = _ from Arbiter.deadline_later, hidle, Option.map_none]
    exact .close hidle'
  | @expire s t cues entries d hpending hdue _ ih =>
    have hpending' : (s.later k).arbiter.deadline = some (d + k) := by
      rw [show (s.later k).arbiter.deadline = _ from Arbiter.deadline_later, hpending,
        Option.map_some]
    rw [← Entry.next_later] at ih
    refine .expire hpending' (fun cue hcue => ?_) ih
    rw [List.head?_map, Option.mem_map] at hcue
    obtain ⟨cue, hcue, rfl⟩ := hcue
    exact Nat.add_le_add_right (hdue cue hcue) k
  | line hearly _ ih =>
    rw [← Entry.next_later] at ih
    exact .line hearly.later ih

/-! ### Rehearsals -/

lemma Rehearsal.queue_pushAll_later (k : Time) {s s' : Rehearsal} (script : List Cue)
    (h : s'.queue = s.queue.map (Cue.later k)) :
    (s'.pushAll (script.map (Cue.later k))).queue =
      (s.pushAll script).queue.map (Cue.later k) := by
  induction script generalizing s s' with
  | nil => exact h
  | cons cue script ih =>
    refine ih (s := s.push cue.time cue.line) ?_
    -- The time of the last line in the queue is later by as much as the one of the new line.
    simp only [push, h, List.getLast?_map]
    cases s.queue.getLast? with
    | none => simp [Cue.later]
    | some last => simp [Cue.later, Nat.add_max_add_right]

lemma Rehearsal.queue_ofScript_later (k : Time) (script : List Cue) :
    (ofScript (script.map (Cue.later k))).queue = (ofScript script).queue.map (Cue.later k) :=
  queue_pushAll_later k script rfl

lemma foldl_time_later {entries : List Entry} (hne : entries ≠ []) (k start : Time) :
    (entries.map (Entry.later k)).foldl (fun _ e => e.time) start =
      entries.foldl (fun _ e => e.time) start + k := by
  rcases List.eq_nil_or_concat entries with rfl | ⟨front, e, rfl⟩
  · exact absurd rfl hne
  · simp [Entry.later]

/--
In a rehearsal of a script whose lines all come later by the same time, every input comes later by
that time, and the same groups are written, later by that time. The same session is left: the counts
are the same, and so is the arbiter with its directory, its readings, its light, and what it shows.
The clock stands later by that time, unless no line has moved it at all.
-/
theorem rehearse_later (config : Config) (script : List Cue) (k : Time) :
    let r := Run.ofScript config script
    let r' := Run.ofScript config (script.map (Cue.later k))
    r'.journal = r.journal.map (Entry.later k) ∧
      r'.run.2.channel.emissions = r.run.2.channel.emissions.map (Emission.later k) ∧
      r'.run.2.session = r.run.2.session ∧
      r'.run.2.channel.clock = if script = [] then 0 else r.run.2.channel.clock + k := by
  intro r r'
  obtain ⟨final, hrun, hagenda, hrecorded, hclock⟩ := Run.rehearse config script
  obtain ⟨final', hrun', hagenda', hrecorded', hclock'⟩ :=
    Run.rehearse config (script.map (Cue.later k))
  rw [Rehearsal.queue_ofScript_later] at hagenda'
  -- Both sessions start with a new arbiter, for which nothing waits, and at the end nothing waits.
  have hstart : (Session.new config).later k = Session.new config := rfl
  have hclear : final.session.arbiter.window.pending = none :=
    (hagenda.committed_eq_target (Arbiter.coherent_new config)).1
  have hend : final.session.later k = final.session := by
    rw [Session.later, Arbiter.later_eq_self hclear]
  have hlater := hagenda.later (k := k)
  rw [hstart, hend] at hlater
  obtain ⟨hjournal, hsession⟩ := hlater.unique hagenda'
  rw [show r.run = (.ok (), final) from hrun, show r'.run = (.ok (), final') from hrun']
  refine ⟨hjournal, ?_, hsession, ?_⟩
  · rw [hrecorded, hrecorded', hjournal, List.flatMap_map, List.map_flatMap]
    simp only [Entry.emissions_later]
  · rw [hclock, hclock', hjournal]
    split_ifs with hscript
    · subst hscript
      obtain ⟨hnil, -⟩ := hagenda.of_idle rfl
      rw [hnil]
      rfl
    · have hlines := Rehearsal.lines_ofScript script
      rw [← hagenda.cues_eq] at hlines
      refine foldl_time_later (fun hnil => hscript ?_) k 0
      rw [hnil] at hlines
      simpa using hlines.symm

end LightArbiter
