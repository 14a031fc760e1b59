import LightArbiter.Flicker
import LightArbiter.Proofs.Mirror
import LightArbiter.Proofs.RoundTrip
import LightArbiter.Proofs.Vacancy

/-!
# The attendance of a single user

With one user of the first two tiers, and readings of that user's sensor only, the light is free, or
held by the user, or about to be left. What is written is then read off the readings: the user takes
the light when seen, and leaves it a window after a reading that sees nobody, unless another reading
comes before.
-/

namespace LightArbiter

/-! ### What the readings call for -/

/--
What is to be written for the readings of a user's sensor, given whether the light is held before
them. A departure counts if no reading comes before the end of its window.
-/
def attended (config : Config) (r : UserRecord) : Bool → List Reading → List Emission
  | _, [] => []
  | false, ⟨t, true⟩ :: readings => ⟨t, r.usedGroup⟩ :: attended config r true readings
  | false, ⟨_, false⟩ :: readings => attended config r false readings
  | true, ⟨_, true⟩ :: readings => attended config r true readings
  | true, ⟨t, false⟩ :: readings =>
    if ∀ next ∈ readings.head?, t + config.debounce ≤ next.time then
      ⟨t + config.debounce, config.palette.freeGroup⟩ :: attended config r false readings
    else attended config r true readings

/-- Does the cue bring a line that reports the reading of a sensor, at the time of the reading? -/
def Cue.Reports (sensorId : String) (cue : Cue) (x : Reading) : Prop :=
  cue.time = x.time ∧ Command.ofLine cue.line = .ok (.sensorOccupied sensorId x.occupied)

variable {config : Config} {r : UserRecord} {readings : List Reading} {x : Reading} {d : Time}

/-- Are these two the groups that are written, by turns and the first one first? -/
def Alternating (first second : Group) : List Emission → Prop
  | [] => True
  | emission :: emissions => emission.group = first ∧ Alternating second first emissions

/-- The user takes the light and leaves it by turns. -/
lemma alternating_attended (config : Config) (r : UserRecord) (readings : List Reading) :
    Alternating r.usedGroup config.palette.freeGroup (attended config r false readings) ∧
      Alternating config.palette.freeGroup r.usedGroup (attended config r true readings) := by
  induction readings with
  | nil => exact ⟨trivial, trivial⟩
  | cons x readings ih =>
    obtain ⟨hfree, hheld⟩ := ih
    obtain ⟨t, occupied⟩ := x
    cases occupied with
    | true => exact ⟨⟨rfl, hheld⟩, hheld⟩
    | false =>
      refine ⟨hfree, ?_⟩
      rw [attended]
      split_ifs
      · exact ⟨rfl, hfree⟩
      · exact hheld

/-! ### Stages of attendance -/

/-- What the light is to a single user. -/
inductive Stage where
  | free
  | held
  /-- Held until the end of a window. -/
  | leaving (deadline : Time)

namespace Stage

/-- What the light shows. -/
def scene (r : UserRecord) : Stage → Scene
  | free => Scene.dark
  | held => ⟨some r, true⟩
  | leaving _ => ⟨some r, true⟩

/-- What waits. -/
def window : Stage → Window
  | free => Window.clear
  | held => Window.clear
  | leaving deadline => Window.schedule none deadline

/-- Does the sensor see the user? -/
def occupied : Stage → Bool
  | free => false
  | held => true
  | leaving _ => false

/-- The stage after a reading. -/
def next (debounce : Time) : Stage → Reading → Stage
  | _, ⟨_, true⟩ => held
  | free, ⟨_, false⟩ => free
  | held, ⟨t, false⟩ => leaving (t + debounce)
  | leaving _, ⟨t, false⟩ => leaving (t + debounce)

/-- What a reading writes at once. -/
def emissions (r : UserRecord) : Stage → Reading → List Emission
  | free, ⟨t, true⟩ => [⟨t, r.usedGroup⟩]
  | _, _ => []

/-- What is to be written from a stage on. -/
def expected (config : Config) (r : UserRecord) : Stage → List Reading → List Emission
  | free, readings => attended config r false readings
  | held, readings => attended config r true readings
  | leaving deadline, readings =>
    if ∀ next ∈ readings.head?, deadline ≤ next.time then
      ⟨deadline, config.palette.freeGroup⟩ :: attended config r false readings
    else attended config r true readings

variable {stage : Stage} {debounce t : Time}

@[simp] lemma next_arrival : stage.next debounce ⟨t, true⟩ = held := by
  cases stage <;> rfl

@[simp] lemma emissions_departure : stage.emissions r ⟨t, false⟩ = [] := by
  cases stage <;> rfl

/-- A reading that comes before the window has ended writes what it writes at once, and all else is
left to the stage after it. -/
lemma expected_cons (hearly : ∀ d, stage = leaving d → x.time < d) :
    stage.expected config r (x :: readings) =
      stage.emissions r x ++ (stage.next config.debounce x).expected config r readings := by
  obtain ⟨t, occupied⟩ := x
  cases stage with
  | free => cases occupied <;> rfl
  | held => cases occupied <;> rfl
  | leaving deadline =>
    have hlt : ¬deadline ≤ t := Nat.not_le.mpr (hearly deadline rfl)
    cases occupied <;> simp [expected, emissions, next, attended, hlt]

/-- A window that ends before the next reading writes that the light is free. -/
lemma expected_leaving (hdue : ∀ next ∈ readings.head?, d ≤ next.time) :
    (leaving d).expected config r readings =
      ⟨d, config.palette.freeGroup⟩ :: free.expected config r readings :=
  if_pos hdue

end Stage

/-! ### A directory of one user -/

namespace Directory

/-- The directory of one user. -/
def single (r : UserRecord) : Directory :=
  ⟨[r], [r.link], List.pairwise_singleton .., List.pairwise_singleton .., .refl _⟩

lemma resolve_single {o : Occupancy} {c : Continuity} (htier : r.tier ≠ .user3) :
    (single r).resolve o c = if o.isOccupied r.sensorId then some r else none := by
  have heq {s : UserRecord} (hs : (single r).Eligible o c s) : s = r :=
    List.mem_singleton.mp (eligible_iff.mp hs).1
  split_ifs with hpresent
  · refine resolve_eq_some_iff.mpr ⟨eligible_iff.mpr ⟨List.mem_singleton_self r, hpresent, ?_⟩, ?_⟩
    · intro h
      exact absurd h htier
    · intro s hs
      exact heq hs ▸ s.standing_le_refl
  · refine resolve_eq_none_iff.mpr fun s hs => hpresent ?_
    exact heq hs ▸ (eligible_iff.mp hs).2.1

end Directory

namespace Arbiter

variable {a : Arbiter} {stage : Stage}

/-- A commit changes the display and the window, and writes a group if the scene is another one. -/
lemma commit_of_display {palette : Palette} {scene : Scene} {candidate : Option UserRecord}
    (hdisplay : a.display = ⟨palette, some scene⟩) (hw : a.directory.Lists a.winner)
    (hc : a.directory.Lists candidate) :
    a.commit candidate =
      ({ a with display := ⟨palette, some (a.scene candidate)⟩, window := Window.clear },
        if scene = a.scene candidate then none
        else some ((a.scene candidate).directives palette)) := by
  refine Prod.ext ?_ ?_
  · rw [commit_eq hw hc, hdisplay]
  · rw [group_commit hw hc, hdisplay]
    simp only [Option.some_inj]

/-- Is this an arbiter at a stage, that knows one user, and whose other sensors see nobody? -/
structure Attends (config : Config) (r : UserRecord) (a : Arbiter) (stage : Stage) : Prop where
  config_eq : a.config = config
  directory : a.directory = Directory.single r
  occupancy : ∀ sensorId, a.occupancy.isOccupied sensorId = true ↔
    sensorId = r.sensorId ∧ stage.occupied = true
  display : a.display = ⟨config.palette, some (stage.scene r)⟩
  window : a.window = stage.window

namespace Attends

lemma lists_winner (h : Attends config r a stage) : a.directory.Lists a.winner := by
  intro w hw
  rw [winner_of_shown (congrArg Display.shown h.display)] at hw
  rw [h.directory]
  cases stage with
  | free => cases hw
  | held | leaving _ => exact Option.some.inj hw ▸ List.mem_singleton_self r

/-! The sensor's reading is noted, and it remains to act on it. -/

section Noting

variable {occupied : Bool}

lemma isOccupied_noting (h : Attends config r a stage) (sensorId : String) :
    (a.noting r.sensorId occupied).occupancy.isOccupied sensorId = true ↔
      sensorId = r.sensorId ∧ occupied = true := by
  rw [noting, Occupancy.isOccupied_set]
  by_cases hsensor : sensorId = r.sensorId
  · simp [hsensor]
  · simp [hsensor, Ne.symm hsensor, h.occupancy sensorId]

lemma scene_noting (h : Attends config r a stage) {candidate : Option UserRecord} :
    (a.noting r.sensorId occupied).scene candidate = ⟨candidate, occupied⟩ := by
  have hpresent : (a.noting r.sensorId occupied).occupancy.anyPresent = occupied := by
    rw [Bool.eq_iff_iff, Occupancy.anyPresent_iff]
    simp [h.isOccupied_noting]
  rw [scene, hpresent]

lemma successor_noting (h : Attends config r a stage) (htier : r.tier ≠ .user3) :
    (a.noting r.sensorId occupied).successor = if occupied then some r else none := by
  have hdirectory : (a.noting r.sensorId occupied).directory = .single r := h.directory
  simp [successor, hdirectory, Directory.resolve_single htier, h.isOccupied_noting]

end Noting

/-! What is done at a stage leads to the next one. -/

/-- The user is seen, and takes the light or keeps it. -/
lemma arrive (h : Attends config r a stage) (htier : r.tier ≠ .user3) (now : Time) :
    let call := Call.handle now (.sensorOccupied r.sensorId true)
    Attends config r (a.after call) .held ∧
      (written (a.answer call).2).map (fun group => ⟨now, group⟩) =
        stage.emissions r ⟨now, true⟩ := by
  intro call
  have hcommit : (a.noting r.sensorId true).commit (a.noting r.sensorId true).successor = _ :=
    commit_of_display h.display h.lists_winner lists_successor
  rw [h.successor_noting htier, h.scene_noting, if_pos rfl] at hcommit
  rw [after, answer_arrival, h.successor_noting htier, if_pos rfl, hcommit]
  refine ⟨⟨h.config_eq, h.directory, h.isOccupied_noting, rfl, rfl⟩, ?_⟩
  cases stage with
  | free => rfl
  | held | leaving _ => simp [Stage.scene, Stage.emissions, written]

/-- The user is seen no longer, and leaves the light when a window has ended. -/
lemma depart (h : Attends config r a stage) (htier : r.tier ≠ .user3) (now : Time) :
    Attends config r (a.after (.handle now (.sensorOccupied r.sensorId false)))
      (stage.next config.debounce ⟨now, false⟩) := by
  have hpostpone : (a.noting r.sensorId false).postpone (a.noting r.sensorId false).successor now =
      _ := postpone_eq (a := a.noting r.sensorId false) h.lists_winner lists_successor
  have hshown : (a.noting r.sensorId false).display.shown = some (stage.scene r) :=
    congrArg Display.shown h.display
  have hdebounce : (a.noting r.sensorId false).config.debounce = config.debounce :=
    congrArg Config.debounce h.config_eq
  rw [h.successor_noting htier, h.scene_noting, hshown, hdebounce] at hpostpone
  rw [after, answer_departure, h.successor_noting htier, hpostpone]
  cases stage with
  | free | held | leaving _ =>
    exact ⟨h.config_eq, h.directory, h.isOccupied_noting, h.display, rfl⟩

/-- The window has ended, and the light is free. -/
lemma expire (h : Attends config r a (.leaving d)) :
    Attends config r (a.after (.tick d)) .free ∧
      written (a.answer (.tick d)).2 = [config.palette.freeGroup] := by
  have hp : a.window.pending = some ⟨none, d⟩ := congrArg Window.pending h.window
  have htick : a.tick d = a.releasing.commit none := tick_of_due hp le_rfl
  have hscene : a.releasing.scene none = Scene.dark := by
    have hpresent : a.occupancy.anyPresent = false := by
      rw [Occupancy.anyPresent_eq_false_iff]
      intro sensorId
      simpa [Stage.occupied] using h.occupancy sensorId
    exact congrArg (Scene.mk none) hpresent
  have hcommit : a.releasing.commit none = _ :=
    commit_of_display h.display h.lists_winner Directory.lists_none
  rw [hscene] at hcommit
  rw [after, answer, htick, hcommit]
  exact ⟨⟨h.config_eq, h.directory, h.occupancy, rfl, rfl⟩, rfl⟩

/-- A reading leads to the next stage, and writes what belongs to it. -/
lemma reading (h : Attends config r a stage) (htier : r.tier ≠ .user3) (x : Reading) :
    let call := Call.handle x.time (.sensorOccupied r.sensorId x.occupied)
    Attends config r (a.after call) (stage.next config.debounce x) ∧
      (written (a.answer call).2).map (fun group => ⟨x.time, group⟩) = stage.emissions r x := by
  obtain ⟨t, occupied⟩ := x
  cases occupied with
  | true =>
    rw [Stage.next_arrival]
    exact h.arrive htier t
  | false =>
    rw [Stage.emissions_departure]
    exact ⟨h.depart htier t, rfl⟩

lemma deadline_eq (h : Attends config r a stage) : a.deadline = stage.window.deadline :=
  congrArg Window.deadline h.window

end Attends

end Arbiter

/-! ### Runs on the readings of one sensor -/

open Arbiter

variable {stage : Stage} {s t : Session} {cue : Cue} {cues : List Cue} {entries : List Entry}

lemma Arbiter.Attends.next_line (h : Attends config r s.arbiter stage) (htier : r.tier ≠ .user3)
    (hreports : cue.Reports r.sensorId x) (hearly : Entry.Early ⟨s, cue.time, .line cue.line⟩) :
    let e : Entry := ⟨s, cue.time, .line cue.line⟩
    Attends config r e.next.arbiter (stage.next config.debounce x) ∧
      e.emissions = stage.emissions r x := by
  intro e
  obtain ⟨htime, hcommand⟩ := hreports
  have hcarries : e.Carries (.sensorOccupied r.sensorId x.occupied) := ⟨cue.line, rfl, hcommand⟩
  obtain ⟨hnext, hemissions⟩ := hcarries.spec hearly
  rw [hearly.answer_eq] at hemissions
  rw [hnext, hemissions, show e.time = x.time from htime]
  exact h.reading htier x

lemma Arbiter.Attends.next_deadline (h : Attends config r s.arbiter (.leaving d)) :
    let e : Entry := ⟨s, d, .deadline⟩
    Attends config r e.next.arbiter .free ∧ e.emissions = [⟨d, config.palette.freeGroup⟩] := by
  intro e
  obtain ⟨hfree, hwrites⟩ := h.expire
  have hgroups : e.arbiter.groups e.calls = [config.palette.freeGroup] :=
    (List.append_nil _).trans hwrites
  rw [e.arbiter_next, e.emissions_eq, hgroups]
  exact ⟨hfree, rfl⟩

/-- What is written from a stage on is what the readings to come call for. -/
lemma Agenda.emissions_eq (h : Agenda s cues entries t) (hs : Attends config r s.arbiter stage)
    (htier : r.tier ≠ .user3) (hreports : List.Forall₂ (Cue.Reports r.sensorId) cues readings) :
    entries.flatMap Entry.emissions = stage.expected config r readings := by
  induction h generalizing stage readings with
  | close hidle =>
    cases hreports
    cases stage with
    | free | held => rfl
    | leaving deadline => cases hidle.symm.trans hs.deadline_eq
  | @expire s t cues entries d hpending hdue _ ih =>
    cases stage with
    | free | held => cases hpending.symm.trans hs.deadline_eq
    | leaving deadline =>
      cases hpending.symm.trans hs.deadline_eq
      obtain ⟨hfree, hemissions⟩ := hs.next_deadline
      have hdue' : ∀ next ∈ readings.head?, deadline ≤ next.time := by
        cases hreports with
        | nil => simp
        | cons hcue _ => simpa [hcue.1] using hdue
      rw [List.flatMap_cons, hemissions, ih hfree hreports, Stage.expected_leaving hdue']
      rfl
  | @line s t cue cues entries hearly _ ih =>
    cases hreports with
    | @cons _ x _ readings hcue hcues =>
      obtain ⟨hnext, hemissions⟩ := hs.next_line htier hcue hearly
      have hearly' : ∀ d, stage = .leaving d → x.time < d := by
        rintro d rfl
        exact hcue.1 ▸ hearly d hs.deadline_eq
      rw [List.flatMap_cons, hemissions, ih hnext hcues, Stage.expected_cons hearly']

/-- A new arbiter that gets a directory of one user writes nothing. -/
lemma Arbiter.attends_single (config : Config) (r : UserRecord) (now : Time) :
    let call := Call.handle now (.ownership [r])
    Attends config r ((new config).after call) .free ∧ written ((new config).answer call).2 = [] := by
  have hvacant : ∀ sensorId, Occupancy.empty.isOccupied sensorId = true ↔
      sensorId = r.sensorId ∧ Stage.free.occupied = true := by
    simp [Stage.occupied, Occupancy.isOccupied]
  exact ⟨⟨rfl, rfl, hvacant, rfl, rfl⟩, rfl⟩

/--
A rehearsal in which first the directory of a single user of the first two tiers comes, and then only
readings of that user's sensor, comes to its end and writes what the readings call for: the user takes
the light and leaves it by turns.
-/
theorem rehearse_attended (config : Config) (htier : r.tier ≠ .user3) {start : Time} {line : String}
    (hline : Command.ofLine line = .ok (.ownership [r]))
    (hreports : List.Forall₂ (Cue.Reports r.sensorId) cues readings)
    (hsorted : Cue.Sorted (⟨start, line⟩ :: cues)) :
    ∃ final, (Run.ofScript config (⟨start, line⟩ :: cues)).run = (.ok (), final) ∧
      final.channel.emissions = attended config r false readings ∧
      Alternating r.usedGroup config.palette.freeGroup final.channel.emissions := by
  obtain ⟨final, hrun, hagenda, hemissions, -⟩ := Run.rehearse config (⟨start, line⟩ :: cues)
  rw [Rehearsal.queue_ofScript hsorted] at hagenda
  -- Nothing waits at first, so that the directory comes before anything else.
  have hearly : Entry.Early ⟨Session.new config, start, .line line⟩ := by
    intro d hd
    cases hd
  obtain ⟨entries, hjournal, hrest⟩ := hagenda.of_early hearly
  obtain ⟨hnext, hwrites⟩ := Entry.Carries.spec ⟨line, rfl, hline⟩ hearly
  obtain ⟨hattends, hquiet⟩ := Arbiter.attends_single config r start
  rw [hearly.answer_eq] at hwrites
  have hfirst : Entry.emissions ⟨Session.new config, start, .line line⟩ = [] :=
    hwrites.trans (congrArg (List.map _) hquiet)
  have hfree : Attends config r
      (Entry.next ⟨Session.new config, start, .line line⟩).arbiter .free := by
    rw [hnext]
    exact hattends
  have hattended : final.channel.emissions = attended config r false readings := by
    rw [hemissions, hjournal, List.flatMap_cons, hfirst, List.nil_append]
    exact hrest.emissions_eq hfree htier hreports
  refine ⟨final, hrun, hattended, ?_⟩
  rw [hattended]
  exact (alternating_attended config r readings).1

/-- The user is back within the window at first. Then two readings see nobody; the second one starts
the window again, and the user comes back at its very end, after the light has become free. -/
theorem rehearse_attended_desk :
    let r := { UserRecord.plain "ada" .user2 with sensorId := "desk" }
    let readings : List Reading := [⟨0, true⟩, ⟨1000, false⟩, ⟨2000, true⟩, ⟨3000, false⟩,
      ⟨5000, false⟩, ⟨8000, true⟩, ⟨9000, false⟩]
    let script := ⟨0, ownershipLine [r]⟩ ::
      readings.map fun x => ⟨x.time, sensorLine r.sensorId x.occupied⟩
    r.tier ≠ .user3 ∧ Command.ofLine (ownershipLine [r]) = .ok (.ownership [r]) ∧
      List.Forall₂ (Cue.Reports r.sensorId) script.tail readings ∧ Cue.Sorted script ∧
      ∃ final, (Run.ofScript {} script).run = (.ok (), final) ∧
        final.channel.emissions = [⟨0, r.usedGroup⟩, ⟨8000, Palette.freeGroup {}⟩,
          ⟨8000, r.usedGroup⟩, ⟨12000, Palette.freeGroup {}⟩] := by
  intro r readings script
  have htier : r.tier ≠ .user3 := by decide
  have hline : Command.ofLine (ownershipLine [r]) = .ok (.ownership [r]) :=
    ofLine_ownershipLine (by decide +kernel)
  have hsensor : ∀ occupied, Command.ofLine (sensorLine r.sensorId occupied) =
      .ok (.sensorOccupied r.sensorId occupied) := by
    decide
  have hreports : List.Forall₂ (Cue.Reports r.sensorId) script.tail readings :=
    List.forall₂_map_left_iff.mpr (List.forall₂_same.mpr fun x _ => ⟨rfl, hsensor x.occupied⟩)
  have hsorted : Cue.Sorted script := by decide
  obtain ⟨final, hrun, hemissions, -⟩ := rehearse_attended {} htier hline hreports hsorted
  exact ⟨htier, hline, hreports, hsorted, final, hrun, hemissions⟩

end LightArbiter
