import LightArbiter.Proofs.Coherence

/-!
# Safety of the decisions

The light shows what the readings call for unless an outcome waits that makes up for it; a present
user of the first two tiers is never passed over; and a user of the third tier gets the light only by
asking for it.
-/

namespace LightArbiter

namespace Arbiter

variable {a b : Arbiter} {call : Call} {answer : Except Refusal (Option Group)} {r : UserRecord}

/-! ### What waits is what the light should show -/

/-- An outcome that falls due is committed, and is what the light should show. -/
lemma Coherent.tick_of_due (h : Coherent a) {deferral : Deferral} {now : Time}
    (hp : a.window.pending = some deferral) (hdue : deferral.deadline ≤ now) :
    (a.tick now).2 = some (a.target.directives a.display.palette) ∧
      (a.tick now).1.committed = a.target := by
  have hshown : a.releasing.display.shown ≠ some (a.releasing.scene a.releasing.successor) := by
    intro hshown
    have := h.waiting.mpr (committed_of_shown (a := a) hshown)
    rw [hp] at this
    cases this
  have hw : a.releasing.directory.Lists a.releasing.winner := h.listed
  rw [Arbiter.tick_of_due hp hdue, h.candidate _ hp]
  constructor
  · exact (group_commit hw lists_successor).trans (if_neg hshown)
  · exact committed_of_shown (shown_commit hw lists_successor)

/--
After every history, an outcome waits exactly if the light does not show what the readings call for,
and it is then the owner they call for. So a window that ends always writes one group, the one that
the readings call for at its end.
-/
theorem pending_iff_committed_ne_target (config : Config) (calls : List Call) :
    let a := (new config).run calls
    (a.window.pending.isSome ↔ a.committed ≠ a.target) ∧
      (∀ deferral, a.window.pending = some deferral → deferral.candidate = a.target.winner) ∧
      ∀ deferral now, a.window.pending = some deferral → deferral.deadline ≤ now →
        (a.tick now).2 = some (a.target.directives config.palette) ∧
          (a.tick now).1.committed = a.target := by
  intro a
  have h : Coherent a := coherent_run config calls
  refine ⟨?_, h.candidate, ?_⟩
  · rw [Ne, ← h.waiting, Option.isSome_iff_ne_none]
  · intro deferral now hp hdue
    have hpalette : a.display.palette = config.palette := palette_run config calls
    exact hpalette ▸ h.tick_of_due hp hdue

/-! ### Nobody of the first two tiers is passed over -/

/--
After every history, while a listed user of the first two tiers is present, the light has an owner
who does not stand behind that user, and who is therefore not of the third tier.
-/
theorem exists_winner_standing_le (config : Config) (calls : List Call)
    (hr : r ∈ ((new config).run calls).directory.records)
    (htier : r.tier = .user1 ∨ r.tier = .user2)
    (hpresent : ((new config).run calls).occupancy.isOccupied r.sensorId = true) :
    ∃ w, ((new config).run calls).winner = some w ∧ w.standing ≤ r.standing ∧
      w.tier ≠ .user3 := by
  have hne : r.tier ≠ .user3 := by rcases htier with h | h <;> simp [h]
  obtain ⟨w, hw, hle⟩ :=
    (coherent_run config calls).precedence r (Directory.mem_present.mpr ⟨hr, hpresent⟩) hne
  refine ⟨w, hw, hle, ?_⟩
  intro h
  have hle' := UserRecord.tier_le_of_standing_le hle
  rw [h] at hle'
  exact hne (Tier.eq_user3_of_le hle')

/-- A user of the second tier who arrives during the departure of one of the first is not passed
over. -/
theorem exists_winner_standing_le_during_departure :
    let alice := UserRecord.plain "alice" .user1
    let bob := UserRecord.plain "bob" .user2
    let a := (new {}).run
      [.handle 0 (.ownership [alice, bob]), .handle 0 (.sensorOccupied alice.sensorId true),
        .handle 0 (.sensorOccupied bob.sensorId true),
        .handle 1000 (.sensorOccupied alice.sensorId false)]
    a.winner = some alice ∧ a.window.pending.isSome ∧
      ∃ w, a.winner = some w ∧ w.standing ≤ bob.standing ∧ w.tier ≠ .user3 :=
  ⟨by decide, by decide, exists_winner_standing_le {} _ (by decide) (by decide) (by decide)⟩

/-! ### The third tier has to ask -/

/-- A user of the third tier who owned the light keeps it over a new directory, and no other gets
it. -/
lemma winner_of_retained {d : Directory}
    (hr : d.resolve a.occupancy { retained := a.retained } = some r) (htier : r.tier = .user3) :
    ∃ w, a.winner = some w ∧ w.tier = .user3 ∧ w.userId = r.userId := by
  have heligible := Directory.eligible_iff.mp (Directory.resolve_least hr).1
  have hid := Continuity.allows_retained.mp (heligible.2.2 htier)
  obtain ⟨w, hw, hid⟩ := Option.map_eq_some_iff.mp hid
  obtain ⟨hw, htier⟩ := Option.filter_eq_some_iff.mp hw
  exact ⟨w, hw, by simpa using htier, hid⟩

/-- The outcome that waits is no user of the third tier. -/
lemma Coherent.candidate_tier (h : Coherent a) {deferral : Deferral}
    (hp : a.window.pending = some deferral) (hr : deferral.candidate = some r) :
    r.tier ≠ .user3 := by
  intro htier
  rw [h.candidate _ hp] at hr
  have hw := winner_of_successor h.listed hr htier
  have heq : a.committed = a.target := by
    rw [committed, target, scene, hr, hw, h.lit r hw,
      Occupancy.anyPresent_of_isOccupied (Directory.mem_of_resolve hr).2]
  rw [h.waiting.mpr heq] at hp
  cases hp

/-- A user of the third tier who has become the owner has asked for it. -/
lemma Coherent.claim_of_effect (h : Coherent a) (e : Effect a call b answer)
    (hr : b.winner = some r) (htier : r.tier = .user3)
    (hnew : ∀ w, a.winner = some w → w.tier = .user3 → w.userId ≠ r.userId) :
    (∃ now, call = .handle now (.claim r.userId)) ∧ ∃ group, answer = .ok group := by
  have hsame : a.winner ≠ some r := fun h => hnew r h htier rfl
  cases e with
  | wait _ | place | refuse _ => exact absurd hr hsame
  | expire hp _ =>
    rw [h.winner_expire hp] at hr
    exact absurd (winner_of_successor h.listed hr htier) hsame
  | install _ =>
    rw [winner_install] at hr
    obtain ⟨w, hw, htier', hid⟩ := winner_of_retained hr htier
    exact absurd hid (hnew w hw htier')
  | arrive =>
    rw [h.winner_arrive] at hr
    exact absurd (winner_of_successor (a := a.noting _ true) h.listed hr htier) hsame
  | depart => exact absurd (winner_depart.symm.trans hr) hsame
  | grant hr' =>
    rw [h.winner_grant hr'] at hr
    cases hr
    exact ⟨⟨_, by rw [(claimant_spec hr').2.1]⟩, _, rfl⟩

/--
After every history, a call by which a user of the third tier becomes the owner is that user's own
claim, and it is not refused. An outcome that waits never gives the light to the third tier.
-/
theorem claim_of_new_user3_owner (config : Config) (calls : List Call) (call : Call) :
    let a := (new config).run calls
    (∀ r, (a.after call).winner = some r → r.tier = .user3 →
      (∀ w, a.winner = some w → w.tier = .user3 → w.userId ≠ r.userId) →
        (∃ now, call = .handle now (.claim r.userId)) ∧ a.Accepts call) ∧
      ∀ deferral r, a.window.pending = some deferral → deferral.candidate = some r →
        r.tier ≠ .user3 := by
  intro a
  have h : Coherent a := coherent_run config calls
  constructor
  · intro r hr htier hnew
    exact h.claim_of_effect (effect_after a call) hr htier hnew
  · intro deferral r hp hr
    exact h.candidate_tier hp hr

-- Presence alone gives a user of the third tier nothing, the user's claim the light.
example :
    let carol := UserRecord.plain "carol" .user3
    let a := (new {}).run
      [.handle 0 (.ownership [carol]), .handle 0 (.sensorOccupied carol.sensorId true)]
    a.winner = none ∧ (a.after (.handle 0 (.claim carol.userId))).winner = some carol := by
  decide

end Arbiter

end LightArbiter
