import LightArbiter.Proofs.Agenda
import LightArbiter.Proofs.Safety

/-!
# The time of what is written

In a rehearsal a group is written for one of two reasons: a line that is acted upon at once, and
then at the time of that line; or the end of a window, and then exactly so long after the departure
that has started it. Only another reading, claim or directory that is acted upon keeps a window from
ending.
-/

namespace LightArbiter

/-- Is the command acted upon at once: an arrival, a claim, or a new directory? -/
def Command.Prompt : Command → Prop
  | .location _ => False
  | .ownership _ => True
  | .sensorOccupied _ occupied => occupied = true
  | .claim _ => True

namespace Entry

open Arbiter

variable {e : Entry}

/-! ### What a line does to a window -/

/-- Is the input the reading of a sensor that sees nobody? -/
def Departs (e : Entry) : Prop :=
  ∃ sensorId, e.Carries (.sensorOccupied sensorId false)

/-- Is the input an arrival, a claim or a new directory that is not refused, with this answer? -/
def Decides (e : Entry) (group : Option Group) : Prop :=
  ∃ command, e.Carries command ∧ command.Prompt ∧ e.answer command = .ok group

/-- Is the input a line that comes to nothing or places the light? -/
def Idle (e : Entry) : Prop :=
  e.Vain ∨ ∃ position, e.Carries (.location position)

lemma answer_departure (e : Entry) (sensorId : String) :
    e.answer (.sensorOccupied sensorId false) = .ok none := rfl

/-- An idle line is no reading, and no claim or directory that is accepted. -/
lemma Idle.not_departs_or_decides (h : e.Idle) : ¬e.Departs ∧ ∀ group, ¬e.Decides group := by
  constructor
  · rintro ⟨sensorId, hcarries⟩
    rcases h with hvain | ⟨position, hplaces⟩
    · obtain ⟨refusal, hrefused⟩ := hvain.refused_of_carries hcarries
      cases hrefused.symm.trans (e.answer_departure sensorId)
    · cases hcarries.unique hplaces
  · rintro group ⟨command, hcarries, hprompt, hanswer⟩
    rcases h with hvain | ⟨position, hplaces⟩
    · obtain ⟨refusal, hrefused⟩ := hvain.refused_of_carries hcarries
      cases hrefused.symm.trans hanswer
    · cases hcarries.unique hplaces
      exact hprompt

/-- A departure writes nothing, and what waits after it does so until a window from now has
ended. -/
lemma Departs.spec (hdeparts : e.Departs) (h : e.Early) :
    e.emissions = [] ∧ ∀ deferral, e.next.arbiter.window.pending = some deferral →
      deferral.deadline = e.time + e.arbiter.config.debounce := by
  obtain ⟨sensorId, hcarries⟩ := hdeparts
  obtain ⟨hnext, hemissions⟩ := hcarries.spec h
  rw [e.answer_departure] at hemissions
  refine ⟨hemissions, fun deferral hp => ?_⟩
  rw [hnext] at hp
  exact deadline_postpone (a := e.arbiter.noting sensorId false) hp

/-- What a line that comes on time does to the window, and what it writes. -/
inductive Course (e : Entry) : Prop where
  /-- It leaves the window as it is. -/
  | idle (idle : e.Idle) (same : e.next.arbiter.window = e.arbiter.window)
      (quiet : e.emissions = []) : Course e
  /-- It may start a window. -/
  | depart (departs : e.Departs) : Course e
  /-- It leaves nothing waiting. -/
  | decide {group : Option Group} (decides : e.Decides group)
      (clear : e.next.arbiter.window.pending = none)
      (writes : e.emissions = group.toList.map fun group => ⟨e.time, group⟩) : Course e

lemma course_of_line {text : String} (hinput : e.input = .line text) (h : e.Early) :
    e.Course := by
  cases hcommand : Command.ofLine text with
  | error bad =>
    have hvain : e.Vain := .unparsable hinput hcommand
    obtain ⟨hnext, hquiet⟩ := hvain.spec h
    exact .idle (.inl hvain) (by rw [hnext]) hquiet
  | ok command =>
    have hcarries : e.Carries command := ⟨text, hinput, hcommand⟩
    obtain ⟨hnext, hwrites⟩ := hcarries.spec h
    have effect : Effect e.arbiter (.handle e.time command) e.next.arbiter (e.answer command) := by
      rw [hnext, h.answer_eq]
      exact effect_answer e.arbiter (.handle e.time command)
    generalize hanswer : e.answer command = answer at effect hwrites
    generalize hafter : e.next.arbiter = after at effect
    cases effect with
    | place => exact .idle (.inr ⟨_, hcarries⟩) (by rw [hafter]; rfl) hwrites
    | refuse _ => exact .idle (.inl (.refused hcarries hanswer)) (by rw [hafter]) hwrites
    | install _ | arrive | grant _ =>
      refine .decide ⟨_, hcarries, ?_, hanswer⟩ (by rw [hafter]; rfl) hwrites
      simp [Command.Prompt]
    | depart => exact .depart ⟨_, hcarries⟩

lemma decides_of_mem_emissions {text : String} {m : Emission} (hinput : e.input = .line text)
    (h : e.Early) (hm : m ∈ e.emissions) : m.time = e.time ∧ e.Decides (some m.group) := by
  cases course_of_line hinput h with
  | idle _ _ hquiet => simp [hquiet] at hm
  | depart hdeparts => simp [(hdeparts.spec h).1] at hm
  | decide hdecides _ hwrites =>
    rw [hwrites] at hm
    obtain ⟨group, hgroup, rfl⟩ := List.mem_map.mp hm
    rw [Option.mem_toList] at hgroup
    exact ⟨rfl, hgroup ▸ hdecides⟩

/-! ### What the end of a window does -/

lemma coherent_next (h : Coherent e.arbiter) : Coherent e.next.arbiter := by
  rw [arbiter_next]
  exact h.run e.calls

lemma config_next : e.next.arbiter.config = e.arbiter.config := by
  rw [arbiter_next]
  refine run_invariant (P := fun b => b.config = e.arbiter.config) e.calls rfl ?_
  intro b call hb
  exact (effect_after b call).config_eq.trans hb

/-- The end of a window writes one group, and nothing waits after it. -/
lemma spec_of_deadline (hinput : e.input = .deadline) (hp : e.arbiter.deadline = some e.time)
    (h : Coherent e.arbiter) :
    e.next.arbiter.window.pending = none ∧ ∃ group, e.emissions = [⟨e.time, group⟩] := by
  have hcalls : e.calls = [.tick e.time] := by simp [calls, hinput]
  rw [arbiter_next, emissions_eq, hcalls]
  obtain ⟨deferral, hdeferral, hdue⟩ := deadline_eq_some.mp hp
  constructor
  · have hnone : (e.arbiter.tick e.time).1.deadline = none := Run.deadline_tick hp le_rfl
    exact Option.map_eq_none_iff.mp hnone
  · refine ⟨e.arbiter.target.directives e.arbiter.display.palette, ?_⟩
    simp [groups, Arbiter.answer, written, (h.tick_of_due hdeferral hdue.le).1]

end Entry

/-! ### The departure that has started a window -/

/--
Is an arbiter coherent after certain entries, and has what waits begun with a departure among them
after which only idle lines have come?
-/
structure Arbiter.Since (config : Config) (past : List Entry) (a : Arbiter) : Prop where
  coherent : Coherent a
  config_eq : a.config = config
  departure : ∀ deferral, a.window.pending = some deferral →
    ∃ front reading between, past = front ++ reading :: between ∧ reading.Departs ∧
      (∀ x ∈ between, x.Idle) ∧ deferral.deadline = reading.time + config.debounce

lemma Arbiter.Since.next {config : Config} {past : List Entry} {e : Entry}
    (h : e.arbiter.Since config past) (hontime : e.OnTime) :
    e.next.arbiter.Since config (past ++ [e]) := by
  refine ⟨Entry.coherent_next h.coherent, Entry.config_next.trans h.config_eq, ?_⟩
  intro deferral hp
  -- An idle line leaves the departure the last one, and after all else nothing that is older waits.
  cases hontime with
  | deadline hinput hdue =>
    rw [(Entry.spec_of_deadline hinput hdue h.coherent).1] at hp
    cases hp
  | line hinput hearly =>
    cases Entry.course_of_line hinput hearly with
    | idle hidle hsame _ =>
      rw [hsame] at hp
      obtain ⟨front, reading, between, rfl, hdeparts, hbetween, hdeadline⟩ :=
        h.departure deferral hp
      refine ⟨front, reading, between ++ [e], by simp, hdeparts, ?_, hdeadline⟩
      simpa [or_imp, forall_and] using ⟨hbetween, hidle⟩
    | depart hdeparts =>
      refine ⟨past, e, [], rfl, hdeparts, by simp, ?_⟩
      rw [(hdeparts.spec hearly).2 deferral hp, h.config_eq]
    | decide _ hclear _ =>
      rw [hclear] at hp
      cases hp

lemma Arbiter.Since.departure_of_mem_emissions {config : Config} {past : List Entry} {e : Entry}
    {m : Emission} (h : e.arbiter.Since config past) (hinput : e.input = .deadline)
    (hdue : e.arbiter.deadline = some e.time) (hm : m ∈ e.emissions) :
    m.time = e.time ∧ ∃ front reading between, past = front ++ reading :: between ∧
      reading.Departs ∧ (∀ x ∈ between, x.Idle) ∧ e.time = reading.time + config.debounce := by
  obtain ⟨-, group, hwrites⟩ := Entry.spec_of_deadline hinput hdue h.coherent
  rw [hwrites, List.mem_singleton] at hm
  obtain ⟨deferral, hp, hdeadline⟩ := Arbiter.deadline_eq_some.mp hdue
  rw [← hdeadline]
  exact ⟨by rw [hm, hdeadline], h.departure deferral hp⟩

/-! ### The end that a window comes to -/

/--
Do idle lines that come before a time come first, and then the end of a window at that time, with a
group, or a line before it that is acted upon or starts another window?
-/
def EndsAt (d : Time) (entries : List Entry) : Prop :=
  ∃ between x rest, entries = between ++ x :: rest ∧ (∀ y ∈ between, y.Idle ∧ y.time < d) ∧
    (x.input = .deadline ∧ x.time = d ∧ (∃ group, x.emissions = [⟨d, group⟩]) ∨
      (x.Departs ∨ ∃ group, x.Decides group) ∧ x.time < d)

lemma EndsAt.cons {d : Time} {e : Entry} {entries : List Entry} (hidle : e.Idle)
    (htime : e.time < d) (h : EndsAt d entries) : EndsAt d (e :: entries) := by
  obtain ⟨between, x, rest, rfl, hbetween, hx⟩ := h
  refine ⟨e :: between, x, rest, rfl, ?_, hx⟩
  simpa using ⟨⟨hidle, htime⟩, hbetween⟩

/-- Lines that are idle neither cancel nor move what waits. -/
lemma Agenda.endsAt {s t : Session} {cues : List Cue} {entries : List Entry} {d : Time}
    (h : Agenda s cues entries t) (hcoherent : Arbiter.Coherent s.arbiter)
    (hd : s.arbiter.deadline = some d) : EndsAt d entries := by
  induction h with
  | close hidle => cases hidle.symm.trans hd
  | @expire s t cues entries d' hpending _ _ _ =>
    cases hpending.symm.trans hd
    have hspec := Entry.spec_of_deadline (e := ⟨s, d, .deadline⟩) rfl hpending hcoherent
    exact ⟨[], _, entries, rfl, by simp, .inl ⟨rfl, rfl, hspec.2⟩⟩
  | @line s t cue cues entries hearly _ ih =>
    have htime : cue.time < d := hearly d hd
    cases Entry.course_of_line rfl hearly with
    | idle hidle hsame _ =>
      refine EndsAt.cons hidle htime (ih (Entry.coherent_next hcoherent) ?_)
      rw [Arbiter.deadline, hsame]
      exact hd
    | depart hdeparts => exact ⟨[], _, entries, rfl, by simp, .inr ⟨.inl hdeparts, htime⟩⟩
    | @decide group hdecides _ _ =>
      exact ⟨[], _, entries, rfl, by simp, .inr ⟨.inr ⟨group, hdecides⟩, htime⟩⟩

/-! ### Rehearsals -/

/--
In a rehearsal of any script, all that is recorded is written by the inputs of the journal, in which
the lines come one by one at their times, none of them while an outcome is due. A departure writes
nothing. A group is written at the time of its input, which either is an arrival, a claim or a new
directory with this answer, or is the end of a window, exactly so long after the last departure,
with only idle lines in between: no reading, and no claim or directory that is accepted. And if an
outcome waits after a departure then a window's length later a group is written, unless before that
another line is acted upon or starts another window.
-/
theorem time_of_emission (config : Config) (script : List Cue) :
    let r := Run.ofScript config script
    r.run.2.channel.emissions = r.journal.flatMap Entry.emissions ∧
      r.journal.filterMap Entry.cue? = (Rehearsal.ofScript script).queue ∧
      ∀ earlier e later, r.journal = earlier ++ e :: later →
        (∀ text, e.input = .line text → e.Early) ∧
        (e.Departs → e.emissions = []) ∧
        (∀ m ∈ e.emissions, m.time = e.time ∧
          (e.Decides (some m.group) ∨
            e.input = .deadline ∧
              ∃ front reading between, earlier = front ++ reading :: between ∧ reading.Departs ∧
                (∀ x ∈ between, x.Idle ∧ ¬x.Departs ∧ ∀ group, ¬x.Decides group) ∧
                e.time = reading.time + config.debounce)) ∧
        (e.Departs → e.next.arbiter.window.pending.isSome →
          EndsAt (e.time + config.debounce) later) := by
  intro r
  obtain ⟨final, hrun, hagenda, hrecorded, -⟩ := Run.rehearse config script
  rw [show r.run = (.ok (), final) from hrun]
  refine ⟨hrecorded, hagenda.cues_eq, ?_⟩
  intro earlier e later hsplit
  rw [show (Run.ofScript config script).journal = earlier ++ e :: later from hsplit] at hagenda
  have hnew : (Session.new config).arbiter.Since config [] :=
    ⟨Arbiter.coherent_new config, rfl, fun deferral hp => by cases hp⟩
  -- What waits has begun with a departure before every entry, this one included.
  obtain ⟨u, rest, hsince, hrest⟩ := hagenda.invariant
    (P := fun past s => s.arbiter.Since config past) hnew fun _ _ h hontime => h.next hontime
  obtain ⟨rfl, hontime, _, hlater⟩ := hrest.of_cons
  rw [List.nil_append] at hsince
  cases hontime with
  | deadline hinput hdue =>
    have hno : ¬e.Departs := by
      rintro ⟨_, text, htext, -⟩
      cases hinput.symm.trans htext
    refine ⟨fun text htext => ?_, fun h => absurd h hno, fun m hm => ?_, fun h => absurd h hno⟩
    · cases hinput.symm.trans htext
    · obtain ⟨htime, front, reading, between, hpast, hdeparts, hbetween, hlength⟩ :=
        hsince.departure_of_mem_emissions hinput hdue hm
      refine ⟨htime, .inr ⟨hinput, front, reading, between, hpast, hdeparts, ?_, hlength⟩⟩
      exact fun x hx => ⟨hbetween x hx, (hbetween x hx).not_departs_or_decides⟩
  | line hinput hearly =>
    refine ⟨fun _ _ => hearly, fun hdeparts => (hdeparts.spec hearly).1, fun m hm => ?_,
      fun hdeparts hpending => ?_⟩
    · obtain ⟨htime, hdecides⟩ := Entry.decides_of_mem_emissions hinput hearly hm
      exact ⟨htime, .inl hdecides⟩
    · obtain ⟨deferral, hp⟩ := Option.isSome_iff_exists.mp hpending
      have hconfig : e.arbiter.config = config := hsince.config_eq
      have hdeadline : deferral.deadline = e.time + config.debounce := by
        rw [(hdeparts.spec hearly).2 deferral hp, hconfig]
      exact hlater.endsAt (Entry.coherent_next hsince.coherent)
        (Arbiter.deadline_eq_some.mpr ⟨deferral, hp, hdeadline⟩)

end LightArbiter
