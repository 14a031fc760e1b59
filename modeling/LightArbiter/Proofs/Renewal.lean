import LightArbiter.Proofs.Enrolment
import LightArbiter.Proofs.Mirror

/-!
# Renewal of the directory

A payload is refused exactly if two of its records share a user or a sensor, and then nothing
changes. Otherwise its directory takes the place of the old one, and the light shows at once what the
readings call for under it. Only an owner of the third tier may go on without asking again, and does
so if that user is still listed in that tier, is present under the sensor now listed, and nobody of a
higher tier is present.
-/

namespace LightArbiter

namespace Arbiter

variable {a : Arbiter} {d : Directory} {records : List UserRecord} {now : Time} {r w : UserRecord}

lemma answer_ownership (a : Arbiter) (now : Time) (records : List UserRecord) :
    a.answer (.handle now (.ownership records)) = match Directory.ofRecords records with
      | .error error => (a, .error (.directory error))
      | .ok d => ((a.install d).1, .ok (a.install d).2) := by
  cases h : Directory.ofRecords records <;> simp only [answer, handle, reload, h]

lemma accepts_ownership_iff : a.Accepts (.handle now (.ownership records)) ↔ Distinct records := by
  rw [← Directory.exists_ofRecords_iff, Accepts, answer_ownership]
  cases Directory.ofRecords records <;> simp

/-! ### What a new directory leads to -/

/-- It is forgotten what the light shows if its owner may have changed. -/
lemma shown_renewing :
    (a.renewing d).display.shown = if a.winner.isSome then none else a.display.shown := by
  simp only [renewing]
  split_ifs <;> rfl

lemma committed_install :
    (a.install d).1.committed =
      ⟨d.resolve a.occupancy { retained := a.retained }, a.occupancy.anyPresent⟩ :=
  committed_of_shown (shown_commit (a := a.renewing d) lists_renewing Directory.lists_resolve)

/-- A group is written unless the light had no owner and shows the same as before. -/
lemma Coherent.group_install (h : Coherent a) :
    (a.install d).2 = if a.winner.isSome ∨ (a.install d).1.committed ≠ a.committed then
      some ((a.install d).1.committed.directives a.display.palette) else none := by
  have hscene : (a.renewing d).scene (d.resolve a.occupancy { retained := a.retained }) =
      (a.install d).1.committed := committed_install.symm
  have hgroup : (a.install d).2 = _ :=
    group_commit (a := a.renewing d) lists_renewing Directory.lists_resolve
  rw [hgroup, hscene, shown_renewing, palette_renewing, h.shown]
  cases howner : a.winner with
  | some w => simp
  | none =>
    simp only [Option.isSome_none, Bool.false_eq_true, if_false, Option.some_inj, false_or,
      ne_eq, ite_not, eq_comm]

/-- The arbiter that an accepted payload leads to, and what is written: what the light shows then, if
it has had an owner or shows something else than before. -/
structure Renewed (a : Arbiter) (records : List UserRecord) (b : Arbiter) (groups : List Group) :
    Prop where
  directory : Directory.ofRecords records = .ok b.directory
  records : b.directory.records.Perm records
  occupancy : b.occupancy = a.occupancy
  light : b.light = a.light
  config : b.config = a.config
  clear : b.window.pending = none
  committed : b.committed = ⟨b.directory.resolve a.occupancy
    { retained := (a.winner.filter fun w => w.tier = .user3).map UserRecord.userId },
    a.occupancy.anyPresent⟩
  writes : groups = if a.winner.isSome ∨ b.committed ≠ a.committed then
    [b.committed.directives a.config.palette] else []

lemma Coherent.renewed (h : Coherent a) (hpalette : a.display.palette = a.config.palette)
    (hd : Directory.ofRecords records = .ok d) :
    a.Renewed records (a.install d).1 (written (.ok (a.install d).2)) := by
  refine ⟨hd, Directory.perm_ofRecords hd, rfl, rfl, rfl, rfl, committed_install, ?_⟩
  rw [h.group_install, hpalette]
  split_ifs <;> rfl

/-- An owner of the third tier who is still listed and present goes on with the new record, if nobody
of a higher tier is present. -/
lemma Renewed.kept {b : Arbiter} {groups : List Group} (h : a.Renewed records b groups)
    (hw : a.winner = some w) (howner : w.tier = .user3) (hr : r ∈ records)
    (hid : r.userId = w.userId) (hpresent : a.occupancy.isOccupied r.sensorId = true)
    (hnone : ∀ s ∈ records, a.occupancy.isOccupied s.sensorId = true → s.tier = .user3) :
    b.winner = some r ∧ groups = [r.usedGroup] := by
  have hresolve : b.directory.resolve a.occupancy
      { retained := (a.winner.filter fun w => w.tier = .user3).map UserRecord.userId } =
        some r := by
    refine Directory.resolve_of_user3 (h.records.mem_iff.mpr hr) hpresent (fun userId => ?_) ?_
    · simp [hw, howner, hid]
    · intro s hs
      obtain ⟨hs, hoccupied⟩ := Directory.mem_present.mp hs
      exact hnone s (h.records.mem_iff.mp hs) hoccupied
  have hcommitted := h.committed
  rw [hresolve] at hcommitted
  have hwrites := h.writes
  rw [hcommitted, if_pos (.inl (by simp [hw]))] at hwrites
  exact ⟨congrArg Scene.winner hcommitted, hwrites⟩

/--
After every history, a payload is refused exactly if two of its records share a user or two share a
sensor, and then the arbiter stays as it is. Otherwise the directory is the one of the payload, the
readings and the light are as before, nothing waits, and the light shows what resolution yields, with
the owner going on if that is one of the third tier; one group is written for it if the light has had
an owner or shows something else than before. So an owner of the third tier who is still listed there
and present keeps the light, with the new record, while nobody of a higher tier is present, and it is
not written that the light is free.
-/
theorem directory_renewed_or_refused (config : Config) (calls : List Call) (now : Time)
    (records : List UserRecord) :
    let a := (new config).run calls
    let call := Call.handle now (.ownership records)
    let groups := written (a.answer call).2
    (¬a.Accepts call ↔ ¬(records.map UserRecord.userId).Nodup ∨
      ¬(records.map UserRecord.sensorId).Nodup) ∧
    (¬a.Accepts call → a.after call = a ∧ groups = []) ∧
    (a.Accepts call → a.Renewed records (a.after call) groups) ∧
    (a.Accepts call → ∀ w r, a.winner = some w → w.tier = .user3 →
      r ∈ records → r.userId = w.userId → r.tier = .user3 →
      a.occupancy.isOccupied r.sensorId = true →
      (∀ s ∈ records, s.tier = .user1 ∨ s.tier = .user2 →
        a.occupancy.isOccupied s.sensorId = false) →
      (a.after call).winner = some r ∧ groups = [r.usedGroup]) := by
  intro a call groups
  have h : Coherent a := coherent_run config calls
  have hpalette : a.display.palette = a.config.palette := by
    rw [palette_run, config_run]
  have hrenewed : a.Accepts call → a.Renewed records (a.after call) groups := by
    intro haccepts
    obtain ⟨d, hd⟩ := Directory.exists_ofRecords_iff.mpr (accepts_ownership_iff.mp haccepts)
    simp only [groups, after, call, answer_ownership, hd]
    exact h.renewed hpalette hd
  refine ⟨?_, ?_, hrenewed, ?_⟩
  · rw [accepts_ownership_iff, ← not_and_or]
    exact not_congr ⟨fun h => ⟨h.users, h.sensors⟩, fun h => ⟨h.1, h.2⟩⟩
  · intro hrefused
    cases hd : Directory.ofRecords records with
    | error error =>
      simp [groups, after, call, answer_ownership, hd, written]
    | ok d =>
      have hdistinct := Directory.exists_ofRecords_iff.mp ⟨d, hd⟩
      exact absurd (accepts_ownership_iff.mpr hdistinct) hrefused
  · intro haccepts w r hw howner hr hid _ hpresent hnone
    refine (hrenewed haccepts).kept hw howner hr hid hpresent fun s hs hoccupied => ?_
    have hvacant := hnone s hs
    rw [hoccupied] at hvacant
    cases hs : s.tier <;> simp_all

-- A reload moves the owner to another sensor that sees somebody, and to another color.
example :
    let carol := UserRecord.plain "carol" .user3
    let moved := { carol with sensorId := "desk", lightColor := Color.warmWhite }
    let a := (new {}).run
      [.handle 0 (.ownership [carol]), .handle 0 (.claim "carol"),
        .handle 1000 (.sensorOccupied "desk" true),
        .handle 2000 (.sensorOccupied carol.sensorId false)]
    let call := Call.handle 3000 (.ownership [moved])
    a.deadline = some 5000 ∧ (a.after call).winner = some moved ∧ (a.after call).deadline = none := by
  decide

end Arbiter

end LightArbiter
