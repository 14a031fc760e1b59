import LightArbiter.Proofs.Granting

/-!
# Reports on sensors

A sensor is reported on by its readings, and by the claims that are granted to the user whom the
directory lists with it at that moment, since whoever makes a claim is present. The last report is
what the sensor is taken to see, whoever is listed with it since then. Nothing else that happens
changes that.
-/

namespace LightArbiter

/-- What is reported of a sensor: does it see somebody? -/
structure Report where
  sensorId : String
  occupied : Bool
deriving DecidableEq

/-- What the last of several reports on a sensor says. -/
def lastReport (reports : List Report) (sensorId : String) : Option Bool :=
  (reports.filter fun report => report.sensorId = sensorId).getLast?.map Report.occupied

section Reports

variable {reports : List Report} {report : Report} {sensorId : String}

lemma lastReport_concat :
    lastReport (reports ++ [report]) sensorId =
      if report.sensorId = sensorId then some report.occupied
      else lastReport reports sensorId := by
  rw [lastReport, List.filter_append]
  split_ifs with h
  · simp [h]
  · simp [h, lastReport]

lemma lastReport_eq_none_iff :
    lastReport reports sensorId = none ↔ sensorId ∉ reports.map Report.sensorId := by
  simp [lastReport]

end Reports

namespace Occupancy

variable {o : Occupancy} {reports : List Report}

/-- Occupancy after reports on sensors. -/
def noteAll (o : Occupancy) (reports : List Report) : Occupancy :=
  reports.foldl (fun o report => o.set report.sensorId report.occupied) o

lemma noteAll_append (later : List Report) :
    o.noteAll (reports ++ later) = (o.noteAll reports).noteAll later :=
  List.foldl_append

lemma reading?_noteAll (reports : List Report) (sensorId : String) :
    (empty.noteAll reports).reading? sensorId = lastReport reports sensorId := by
  induction reports using List.reverseRecOn with
  | nil => rfl
  | append_singleton reports report ih =>
    rw [lastReport_concat, ← ih, noteAll_append]
    exact reading?_set ..

/-- As many sensors have a reading as have been reported on. -/
lemma size_noteAll (reports : List Report) :
    (empty.noteAll reports).size = (reports.map Report.sensorId).toFinset.card := by
  have hnodup := Ascending.nodup_map (empty.noteAll reports).ascending
  have hsensors : ((empty.noteAll reports).readings.map Prod.fst).toFinset =
      (reports.map Report.sensorId).toFinset := by
    ext sensorId
    rw [List.mem_toFinset, List.mem_toFinset, ← not_iff_not, ← lookup_eq_none_iff,
      ← lastReport_eq_none_iff, ← reading?_noteAll, reading?, Option.map_eq_none_iff]
  rw [← hsensors, List.toFinset_card_of_nodup hnodup, List.length_map, size]

end Occupancy

namespace Arbiter

variable {a b : Arbiter} {call : Call} {answer : Except Refusal (Option Group)}

/-- What a call reports of a sensor: a reading reports itself, and a claim that is granted reports
that the user is seen by the sensor in the user's record. -/
def report? (a : Arbiter) (call : Call) : Option Report :=
  match call with
  | .tick _ => none
  | .handle _ (.location _) => none
  | .handle _ (.ownership _) => none
  | .handle _ (.sensorOccupied sensorId occupied) => some ⟨sensorId, occupied⟩
  | .handle _ (.claim userId) =>
    match (a.answer call).2 with
    | .ok _ => (a.directory.user? userId).map fun r => ⟨r.sensorId, true⟩
    | .error _ => none

/-- The reports of the calls of a history, each of them made at its moment. -/
def reported (a : Arbiter) : List Call → List Report
  | [] => []
  | call :: calls => (a.report? call).toList ++ (a.after call).reported calls

lemma report?_of_granted {now : Time} {userId : String} {r : UserRecord}
    (h : a.claimant userId = .ok r) :
    a.report? (.handle now (.claim userId)) = some ⟨r.sensorId, true⟩ := by
  obtain ⟨hr, -, -⟩ := claimant_eq_ok_iff.mp h
  simp only [report?, answer_claim, h, hr, Option.map_some]

lemma report?_of_refused {now : Time} {command : Command} {refusal : Refusal}
    (h : (a.handle now command).2 = .error refusal) : a.report? (.handle now command) = none := by
  cases command with
  | location position => rfl
  | ownership records => rfl
  | sensorOccupied sensorId occupied => cases h
  | claim userId => simp only [report?, Arbiter.answer, h]

lemma report?_of_not_accepts (h : ¬a.Accepts call) : a.report? call = none := by
  cases call with
  | tick now => rfl
  | handle now command =>
    cases hanswer : (a.handle now command).2 with
    | ok group => exact absurd ⟨group, hanswer⟩ h
    | error refusal => exact report?_of_refused hanswer

/-- A call changes nothing about what sensors are taken to see, but notes its report. -/
lemma Effect.occupancy_eq (e : Effect a call b answer) :
    b.occupancy = a.occupancy.noteAll (a.report? call).toList := by
  cases e with
  | wait _ | expire _ _ | place | install _ | arrive => rfl
  | depart =>
    rw [postpone_window]
    rfl
  | refuse hrefused =>
    rw [report?_of_refused hrefused]
    rfl
  | grant hgranted =>
    rw [report?_of_granted hgranted]
    rfl

lemma occupancy_run (a : Arbiter) (calls : List Call) :
    (a.run calls).occupancy = a.occupancy.noteAll (a.reported calls) := by
  induction calls generalizing a with
  | nil => rfl
  | cons call calls ih =>
    rw [run_cons, ih, (effect_after a call).occupancy_eq, reported, Occupancy.noteAll_append]

/--
After every history of a new arbiter, a sensor is taken to see what the last report on it says, a
reading or a claim that was granted to the user listed with it at that moment, and nobody if there
is none. As many sensors are known as have been reported on. A tick, also one that ends a window, a
new directory and a command that is refused leave all readings as they are.
-/
theorem isOccupied_eq_lastReport (config : Config) (calls : List Call) :
    let a := (new config).run calls
    let reports := (new config).reported calls
    (∀ sensorId, a.occupancy.isOccupied sensorId = (lastReport reports sensorId).getD false) ∧
    a.occupancy.size = (reports.map Report.sensorId).toFinset.card ∧
    ∀ call, ((∃ now, call = .tick now) ∨ (∃ now records, call = .handle now (.ownership records)) ∨
      ¬a.Accepts call) → (a.after call).occupancy = a.occupancy := by
  intro a reports
  have hoccupancy : a.occupancy = Occupancy.empty.noteAll reports := occupancy_run _ calls
  refine ⟨?_, ?_, ?_⟩
  · intro sensorId
    rw [hoccupancy, Occupancy.isOccupied, Occupancy.reading?_noteAll]
  · rw [hoccupancy, Occupancy.size_noteAll]
  · intro call hcall
    have hsilent : a.report? call = none := by
      rcases hcall with ⟨now, rfl⟩ | ⟨now, records, rfl⟩ | hrefused
      · rfl
      · rfl
      · exact report?_of_not_accepts hrefused
    rw [(effect_after a call).occupancy_eq, hsilent]
    rfl

-- Carol's claim counts for the desk, also once the desk is Dora's and Carol is unknown.
example :
    let carol := { UserRecord.plain "carol" .user3 with sensorId := "desk" }
    let dora := { UserRecord.plain "dora" .user3 with sensorId := "desk" }
    let calls : List Call := [.handle 0 (.ownership [carol]),
      .handle 1000 (.sensorOccupied "desk" false), .handle 1000 (.claim "carol"),
      .handle 2000 (.ownership [dora]), .handle 3000 (.claim "carol"), .tick 9000]
    (new {}).reported calls = [⟨"desk", false⟩, ⟨"desk", true⟩] ∧
      ((new {}).run calls).occupancy.isOccupied "desk" = true := by
  decide

end Arbiter

end LightArbiter
