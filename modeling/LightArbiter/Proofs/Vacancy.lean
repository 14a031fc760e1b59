import LightArbiter.Proofs.Coherence

/-!
# Vacancy

The owner that the light shows is the user whom the directory holds under that id, and a light that
is owned, or near which somebody is, shows that somebody is near. So an outcome waits for no other
reason than a departure: the owner is absent, or the light is free, still shows that somebody is
near, and nobody is.
-/

namespace LightArbiter

variable {d : Directory} {o : Occupancy} {r w : UserRecord}

/-! ### Presence -/

lemma Occupancy.anyPresent_iff :
    o.anyPresent = true ↔ ∃ sensorId, o.isOccupied sensorId = true := by
  constructor
  · intro h
    obtain ⟨reading, hmem, hoccupied⟩ := List.any_eq_true.mp h
    refine ⟨reading.1, ?_⟩
    rw [Occupancy.isOccupied, Occupancy.reading?, o.ascending.lookup_of_mem hmem]
    exact hoccupied
  · rintro ⟨sensorId, h⟩
    exact Occupancy.anyPresent_of_isOccupied h

lemma Occupancy.anyPresent_eq_false_iff :
    o.anyPresent = false ↔ ∀ sensorId, o.isOccupied sensorId = false := by
  rw [← Bool.not_eq_true, Occupancy.anyPresent_iff]
  simp

lemma Occupancy.anyPresent_of_set_false {sensorId : String}
    (h : (o.set sensorId false).anyPresent = true) : o.anyPresent = true := by
  obtain ⟨other, hother⟩ := Occupancy.anyPresent_iff.mp h
  rw [Occupancy.isOccupied_set] at hother
  split_ifs at hother
  exact Occupancy.anyPresent_of_isOccupied hother

namespace Arbiter

variable {a b : Arbiter} {call : Call} {answer : Except Refusal (Option Group)}

/-! ### What the light shows about presence -/

lemma Coherent.present_eq (h : Coherent a) (hp : a.window.pending = none) :
    a.present = a.occupancy.anyPresent :=
  congrArg Scene.present (h.waiting.mp hp)

/-- A call after which nothing waits leaves the light showing who is near; a departure leaves it as
it is. -/
lemma Coherent.present_of_effect (h : Coherent a) (e : Effect a call b answer)
    (hlit : a.occupancy.anyPresent = true → a.present = true)
    (hany : b.occupancy.anyPresent = true) : b.present = true := by
  have hb : Coherent b := h.effect e
  cases e with
  | wait _ | place | refuse _ => exact hlit hany
  | expire _ _ | install _ | arrive | grant _ => exact (hb.present_eq rfl).trans hany
  | depart =>
    rw [postpone_window] at hany ⊢
    exact hlit (Occupancy.anyPresent_of_set_false hany)

lemma present_of_anyPresent (config : Config) (calls : List Call)
    (hany : ((new config).run calls).occupancy.anyPresent = true) :
    ((new config).run calls).present = true := by
  have h : Coherent ((new config).run calls) ∧
      (((new config).run calls).occupancy.anyPresent = true →
        ((new config).run calls).present = true) := by
    refine run_invariant (P := fun b => Coherent b ∧
      (b.occupancy.anyPresent = true → b.present = true)) calls ⟨coherent_new config, ?_⟩ ?_
    · intro hany
      cases hany
    · rintro b call ⟨hb, hlit⟩
      have e := effect_after b call
      exact ⟨hb.effect e, hb.present_of_effect e hlit⟩
  exact h.2 hany

/-! ### Who should own the light -/

/-- An owner who is present should go on owning the light. -/
lemma Coherent.successor_of_present (h : Coherent a) (hw : a.winner = some w)
    (hpresent : a.occupancy.isOccupied w.sensorId = true) : a.successor = some w := by
  have heligible : a.directory.Eligible a.occupancy
      { committed := a.winner.map UserRecord.userId } w :=
    Directory.eligible_iff.mpr ⟨h.listed w hw, hpresent, fun _ => by simp [hw]⟩
  obtain ⟨s, hs, hle⟩ := heligible.exists_resolve_le
  have hs' : a.successor = some s := hs
  rw [hs']
  by_cases htier : s.tier = .user3
  · exact (winner_of_successor h.listed hs' htier).symm.trans hw
  · obtain ⟨hmem, hoccupied⟩ := Directory.mem_of_resolve hs
    obtain ⟨w', hw', hle'⟩ := h.precedence s (Directory.mem_present.mpr ⟨hmem, hoccupied⟩) htier
    cases hw.symm.trans hw'
    rw [Directory.eq_of_userId_eq hmem (h.listed w hw)
      (UserRecord.userId_eq_of_standing_le hle hle')]

/-- Nobody gets a free light by the readings that are already there. -/
lemma Coherent.successor_of_free (h : Coherent a) (hw : a.winner = none) : a.successor = none := by
  cases hs : a.successor with
  | none => rfl
  | some s =>
    by_cases htier : s.tier = .user3
    · cases hw.symm.trans (winner_of_successor h.listed hs htier)
    · obtain ⟨w, hw', -⟩ :=
        h.precedence s (Directory.mem_present.mpr (Directory.mem_of_resolve hs)) htier
      cases hw.symm.trans hw'

/-- The light shows what it should exactly if its owner is present, or if it is free and shows
truly whether somebody is near. -/
lemma Coherent.committed_eq_target_iff (h : Coherent a) :
    a.committed = a.target ↔
      (∀ w, a.winner = some w → a.occupancy.isOccupied w.sensorId = true) ∧
        (a.winner = none → a.present = a.occupancy.anyPresent) := by
  constructor
  · intro heq
    have hsuccessor : a.winner = a.successor := congrArg Scene.winner heq
    refine ⟨fun w hw => ?_, fun _ => congrArg Scene.present heq⟩
    exact (Directory.mem_of_resolve (hsuccessor.symm.trans hw)).2
  · rintro ⟨howner, hfree⟩
    rw [committed, target, scene]
    cases hw : a.winner with
    | none => rw [h.successor_of_free hw, hfree hw]
    | some w =>
      rw [h.successor_of_present hw (howner w hw), h.lit w hw,
        Occupancy.anyPresent_of_isOccupied (howner w hw)]

/--
After every history, the owner that the light shows is the record that the directory holds of that
user; a light that has an owner, or near which somebody is, shows that somebody is near; and an
outcome waits exactly if the owner is absent, or if a free light shows that somebody is near while
nobody is.
-/
theorem pending_iff_vacant (config : Config) (calls : List Call) :
    let a := (new config).run calls
    (∀ w, a.winner = some w → a.directory.user? w.userId = some w) ∧
      (a.winner.isSome ∨ (∃ sensorId, a.occupancy.isOccupied sensorId = true) →
        a.present = true) ∧
      (a.window.pending.isSome ↔
        (∃ w, a.winner = some w ∧ a.occupancy.isOccupied w.sensorId = false) ∨
          a.winner = none ∧ a.present = true ∧
            ∀ sensorId, a.occupancy.isOccupied sensorId = false) := by
  intro a
  have h : Coherent a := coherent_run config calls
  refine ⟨fun w hw => Directory.user?_of_mem (h.listed w hw), ?_, ?_⟩
  · rintro (howned | hany)
    · obtain ⟨w, hw⟩ := Option.isSome_iff_exists.mp howned
      exact h.lit w hw
    · exact present_of_anyPresent config calls (Occupancy.anyPresent_iff.mpr hany)
  · rw [Option.isSome_iff_ne_none, Ne, h.waiting, h.committed_eq_target_iff,
      ← Occupancy.anyPresent_eq_false_iff]
    have hlit : a.occupancy.anyPresent = true → a.present = true :=
      present_of_anyPresent config calls
    cases hw : a.winner with
    | none =>
      cases hpresent : a.present <;> cases hany : a.occupancy.anyPresent <;> simp_all
    | some w => simp

-- A free light waits for the dark after the last one who was near has left.
example :
    let a := (new {}).run [.handle 0 (.sensorOccupied "hallway" true),
      .handle 1000 (.sensorOccupied "hallway" false)]
    a.winner = none ∧ a.present = true ∧ a.deadline = some 4000 := by
  decide

end Arbiter

end LightArbiter
