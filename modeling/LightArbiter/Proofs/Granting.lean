import LightArbiter.Proofs.Mirror

/-!
# Granting of claims

Five things may speak against a claim: nobody is known by that id, or the user is not of the third
tier, or the owner is not, or it is not known where the light is, or the owner is no farther from it.
A claim is granted exactly if none of them does. Otherwise the answer tells the first one, in this
order, and nothing changes.
-/

namespace LightArbiter

/-- The place of a reason in the order in which they are looked for. -/
def ClaimRefusal.rank : ClaimRefusal → Nat
  | unknownUser => 0
  | notUser3 _ => 1
  | outranked _ => 2
  | locationUnset => 3
  | incumbentCloser _ => 4

namespace Arbiter

variable {config : Config} {a b : Arbiter} {userId : String} {reason other : ClaimRefusal}
  {r : UserRecord}

/-! ### What speaks against a claim -/

/-- What speaks against a claim, each reason by itself. -/
inductive Objects (a : Arbiter) (userId : String) : ClaimRefusal → Prop where
  | unknownUser (unknown : a.directory.user? userId = none) : Objects a userId .unknownUser
  | notUser3 {r : UserRecord} (known : a.directory.user? userId = some r)
      (tier : r.tier ≠ .user3) : Objects a userId (.notUser3 r.tier)
  | outranked {w : UserRecord} (owned : a.winner = some w) (tier : w.tier ≠ .user3) :
      Objects a userId (.outranked w.tier)
  | locationUnset {w : UserRecord} (owned : a.winner = some w) (rival : w.userId ≠ userId)
      (unset : a.light = none) : Objects a userId .locationUnset
  | incumbentCloser {w r : UserRecord} {light : Position} (owned : a.winner = some w)
      (rival : w.userId ≠ userId) (known : a.directory.user? userId = some r)
      (placed : a.light = some light) (closer : light.priority w ≤ light.priority r) :
      Objects a userId (.incumbentCloser w.userId)

/-- A reason that speaks against the claim, with none in front of it that does. -/
structure ObjectsFirst (a : Arbiter) (userId : String) (reason : ClaimRefusal) : Prop where
  objects : a.Objects userId reason
  first : ∀ other, a.Objects userId other → reason.rank ≤ other.rank

lemma Objects.eq_of_rank_eq (h : a.Objects userId reason) (h' : a.Objects userId other)
    (hrank : reason.rank = other.rank) : reason = other := by
  cases h with
  | unknownUser _ =>
    cases h' with
    | unknownUser _ => rfl
    | _ => cases hrank
  | notUser3 hr _ =>
    cases h' with
    | notUser3 hr' _ =>
      cases hr.symm.trans hr'
      rfl
    | _ => cases hrank
  | outranked hw _ =>
    cases h' with
    | outranked hw' _ =>
      cases hw.symm.trans hw'
      rfl
    | _ => cases hrank
  | locationUnset _ _ _ =>
    cases h' with
    | locationUnset _ _ _ => rfl
    | _ => cases hrank
  | incumbentCloser hw _ _ _ _ =>
    cases h' with
    | incumbentCloser hw' _ _ _ _ =>
      cases hw.symm.trans hw'
      rfl
    | _ => cases hrank

lemma ObjectsFirst.unique (h : a.ObjectsFirst userId reason) (h' : a.ObjectsFirst userId other) :
    reason = other :=
  h.objects.eq_of_rank_eq h'.objects
    (Nat.le_antisymm (h.first _ h'.objects) (h'.first _ h.objects))

/-- Nothing speaks against a claim that is granted. -/
lemma not_objects_of_claimant (h : a.claimant userId = .ok r) : ¬a.Objects userId reason := by
  obtain ⟨hr, htier, hobjection⟩ := claimant_eq_ok_iff.mp h
  have hid : r.userId = userId := (Directory.mem_of_user? hr).2
  rw [incumbentObjection_eq_none_iff] at hobjection
  intro hobjects
  cases hobjects with
  | unknownUser hunknown => cases hunknown.symm.trans hr
  | notUser3 hr' htier' =>
    cases hr.symm.trans hr'
    exact htier' htier
  | outranked hw htier' => exact htier' (hobjection _ hw).1
  | locationUnset hw hrival hunset =>
    obtain ⟨light, hlight, -⟩ := (hobjection _ hw).2 (hid ▸ hrival)
    cases hunset.symm.trans hlight
  | incumbentCloser hw hrival hr' hlight hcloser =>
    cases hr.symm.trans hr'
    obtain ⟨light, hlight', hfarther⟩ := (hobjection _ hw).2 (hid ▸ hrival)
    cases hlight.symm.trans hlight'
    exact Magnitude.not_le.mpr hfarther hcloser

/-! What comes first is found by ruling out one reason after the other. -/

section Ranks

variable {w : UserRecord}

lemma Objects.two_le_rank (h : a.Objects userId reason) (hr : a.directory.user? userId = some r)
    (htier : r.tier = .user3) : 2 ≤ reason.rank := by
  cases h with
  | unknownUser hunknown => cases hunknown.symm.trans hr
  | notUser3 hr' htier' =>
    cases hr.symm.trans hr'
    exact absurd htier htier'
  | outranked _ _ | locationUnset _ _ _ | incumbentCloser _ _ _ _ _ => simp [ClaimRefusal.rank]

lemma Objects.three_le_rank (h : a.Objects userId reason)
    (hr : a.directory.user? userId = some r) (htier : r.tier = .user3) (hw : a.winner = some w)
    (howner : w.tier = .user3) : 3 ≤ reason.rank := by
  have hlate := h.two_le_rank hr htier
  cases h with
  | unknownUser _ | notUser3 _ _ => simp [ClaimRefusal.rank] at hlate
  | outranked hw' howner' =>
    cases hw.symm.trans hw'
    exact absurd howner howner'
  | locationUnset _ _ _ | incumbentCloser _ _ _ _ _ => simp [ClaimRefusal.rank]

lemma Objects.four_le_rank {light : Position} (h : a.Objects userId reason)
    (hr : a.directory.user? userId = some r) (htier : r.tier = .user3) (hw : a.winner = some w)
    (howner : w.tier = .user3) (hlight : a.light = some light) : 4 ≤ reason.rank := by
  have hlate := h.three_le_rank hr htier hw howner
  cases h with
  | unknownUser _ | notUser3 _ _ | outranked _ _ => simp [ClaimRefusal.rank] at hlate
  | locationUnset _ _ hunset => cases hunset.symm.trans hlight
  | incumbentCloser _ _ _ _ _ => simp [ClaimRefusal.rank]

end Ranks

/-- The owner's reason against the claim of a listed user of the third tier. -/
lemma objectsFirst_of_incumbentObjection (hr : a.directory.user? userId = some r)
    (htier : r.tier = .user3) (h : a.incumbentObjection r = some reason) :
    a.ObjectsFirst userId reason := by
  rw [incumbentObjection] at h
  cases hw : a.winner with
  | none => simp [hw] at h
  | some w =>
    simp only [hw] at h
    split_ifs at h with howner hsame
    · cases h
      exact ⟨.outranked hw howner, fun _ hother => hother.two_le_rank hr htier⟩
    · rw [not_not] at howner
      have hrival : w.userId ≠ userId := (Directory.mem_of_user? hr).2 ▸ hsame
      cases hlight : a.light with
      | none =>
        simp only [hlight, Option.some.injEq] at h
        subst h
        exact ⟨.locationUnset hw hrival hlight,
          fun _ hother => hother.three_le_rank hr htier hw howner⟩
      | some light =>
        simp only [hlight, Option.ite_none_right_eq_some, Option.some.injEq] at h
        obtain ⟨hcloser, rfl⟩ := h
        exact ⟨.incumbentCloser hw hrival hr hlight hcloser,
          fun _ hother => hother.four_le_rank hr htier hw howner hlight⟩

/-- The answer to a claim that is not granted is the first reason that speaks against it. -/
lemma objectsFirst_of_claimant (h : a.claimant userId = .error reason) :
    a.ObjectsFirst userId reason := by
  rw [claimant] at h
  cases hr : a.directory.user? userId with
  | none =>
    simp only [hr, Except.error.injEq] at h
    subst h
    exact ⟨.unknownUser hr, fun _ _ => Nat.zero_le _⟩
  | some r =>
    simp only [hr] at h
    split_ifs at h with htier
    · cases h
      refine ⟨.notUser3 hr htier, fun other hother => ?_⟩
      cases hother with
      | unknownUser hunknown => cases hunknown.symm.trans hr
      | _ => simp [ClaimRefusal.rank]
    · cases hobjection : a.incumbentObjection r with
      | none => simp [hobjection] at h
      | some objection =>
        simp only [hobjection, Except.error.injEq] at h
        subst h
        exact objectsFirst_of_incumbentObjection hr (not_not.mp htier) hobjection

lemma claimant_eq_error_iff : a.claimant userId = .error reason ↔ a.ObjectsFirst userId reason := by
  refine ⟨objectsFirst_of_claimant, fun h => ?_⟩
  cases hclaimant : a.claimant userId with
  | error other => rw [(objectsFirst_of_claimant hclaimant).unique h]
  | ok r => exact absurd h.objects (not_objects_of_claimant hclaimant)

/-! ### What comes of a claim -/

/-- What the answer to a claim is, and what is left. -/
lemma answer_claim (a : Arbiter) (now : Time) (userId : String) :
    a.answer (.handle now (.claim userId)) = match a.claimant userId with
      | .error reason => (a, .error (.claim userId reason))
      | .ok r => (((a.noting r.sensorId true).commit (some r)).1,
          .ok ((a.noting r.sensorId true).commit (some r)).2) := by
  cases h : a.claimant userId <;> simp only [answer, handle, claim, h, noting]

lemma accepts_claim_iff {now : Time} :
    a.Accepts (.handle now (.claim userId)) ↔ ∃ r, a.claimant userId = .ok r := by
  rw [Accepts, answer_claim]
  cases a.claimant userId <;> simp

lemma refused_claim_iff {now : Time} {refusal : Refusal} :
    (a.answer (.handle now (.claim userId))).2 = .error refusal ↔
      ∃ reason, refusal = .claim userId reason ∧ a.ObjectsFirst userId reason := by
  simp only [answer_claim, ← claimant_eq_error_iff]
  cases a.claimant userId <;> simp [eq_comm]

/-- A claim is granted to a listed user of the third tier, while the light is free or its owner is of
the third tier as well and is that user, or is farther from the light. -/
lemma exists_claimant_iff :
    (∃ r, a.claimant userId = .ok r) ↔
      ∃ r, a.directory.user? userId = some r ∧ r.tier = .user3 ∧
        ∀ w, a.winner = some w → w.tier = .user3 ∧
          (w.userId = userId ∨
            ∃ light, a.light = some light ∧ ¬light.priority w ≤ light.priority r) := by
  refine exists_congr fun r => ?_
  rw [claimant_eq_ok_iff, incumbentObjection_eq_none_iff]
  refine and_congr_right fun hr => and_congr_right fun _ => ?_
  rw [(Directory.mem_of_user? hr).2]
  simp only [Magnitude.not_le, or_iff_not_imp_left]

/-- What a granted claim leads to, and what is written: the user owns the light and is present,
nothing waits, and all else is as it was. Nothing is written if the user was the owner before. -/
structure Grants (a : Arbiter) (r : UserRecord) (b : Arbiter) (groups : List Group) : Prop where
  committed : b.committed = ⟨some r, true⟩
  clear : b.window.pending = none
  present : b.occupancy.isOccupied r.sensorId = true
  others : ∀ sensorId, sensorId ≠ r.sensorId →
    b.occupancy.reading? sensorId = a.occupancy.reading? sensorId
  directory : b.directory = a.directory
  light : b.light = a.light
  config : b.config = a.config
  writes : groups = if a.winner.map UserRecord.userId = some r.userId then [] else [r.usedGroup]

lemma Coherent.committed_eq_iff (h : Coherent a) :
    a.committed = ⟨some r, true⟩ ↔ a.winner = some r := by
  constructor
  · intro heq
    exact congrArg Scene.winner heq
  · intro hw
    rw [committed, hw, h.lit r hw]

lemma Coherent.grants (h : Coherent a) (hr : a.claimant userId = .ok r) :
    a.Grants r ((a.noting r.sensorId true).commit (some r)).1
      (written (.ok ((a.noting r.sensorId true).commit (some r)).2)) := by
  have hmem : r ∈ a.directory.records := (claimant_spec hr).1
  have hlists : (a.noting r.sensorId true).directory.Lists (some r) := by
    intro s hs
    cases hs
    exact hmem
  have hpresent : (a.noting r.sensorId true).occupancy.isOccupied r.sensorId = true := by
    simp [noting, Occupancy.isOccupied_set]
  have hscene : (a.noting r.sensorId true).scene (some r) = ⟨some r, true⟩ := by
    rw [scene, Occupancy.anyPresent_of_isOccupied hpresent]
  have hcommit := commit_eq (a := a.noting r.sensorId true) h.listed hlists
  rw [hcommit]
  refine ⟨committed_of_shown (congrArg some hscene), rfl, hpresent, ?_, rfl, rfl, rfl, ?_⟩
  · intro sensorId hne
    exact (Occupancy.reading?_set ..).trans (if_neg hne.symm)
  · have hshown : (a.noting r.sensorId true).display.shown = some ⟨some r, true⟩ ↔
        a.winner.map UserRecord.userId = some r.userId := by
      rw [Directory.map_userId_eq_some_iff h.listed hmem, ← h.committed_eq_iff]
      exact (congrArg (· = some (⟨some r, true⟩ : Scene)) h.shown).to_iff.trans Option.some_inj
    rw [group_commit (a := a.noting r.sensorId true) h.listed hlists, hscene]
    simp only [hshown]
    split_ifs <;> rfl

/--
After every history, a claim is granted exactly if the directory holds its user as one of the third
tier, and an owner, if there is one, is of the third tier too, and is that user or somebody who is
farther from a light whose place is known. Then the user owns the light and counts as present. A
claim that is not granted is answered with the first of the reasons that speak against it, and leaves
the arbiter as it is.
-/
theorem claim_granted_or_objected (config : Config) (calls : List Call) (now : Time)
    (userId : String) :
    let a := (new config).run calls
    let call := Call.handle now (.claim userId)
    (a.Accepts call ↔ ∃ r, a.directory.user? userId = some r ∧ r.tier = .user3 ∧
      ∀ w, a.winner = some w → w.tier = .user3 ∧
        (w.userId = userId ∨
          ∃ light, a.light = some light ∧ ¬light.priority w ≤ light.priority r)) ∧
    (∀ refusal, (a.answer call).2 = .error refusal ↔
      ∃ reason, refusal = .claim userId reason ∧ a.ObjectsFirst userId reason) ∧
    (¬a.Accepts call → a.after call = a) ∧
    (a.Accepts call → ∃ r, a.directory.user? userId = some r ∧
      a.Grants r (a.after call) (written (a.answer call).2)) := by
  intro a call
  have h : Coherent a := coherent_run config calls
  refine ⟨accepts_claim_iff.trans exists_claimant_iff, fun _ => refused_claim_iff, ?_, ?_⟩
  · intro hrefused
    cases hclaimant : a.claimant userId with
    | error reason => simp only [after, call, answer_claim, hclaimant]
    | ok r => exact absurd (accepts_claim_iff.mpr ⟨r, hclaimant⟩) hrefused
  · intro haccepts
    obtain ⟨r, hr⟩ := accepts_claim_iff.mp haccepts
    refine ⟨r, (claimant_eq_ok_iff.mp hr).1, ?_⟩
    simp only [after, call, answer_claim, hr]
    exact h.grants hr

-- During her departure the owner asks for the light once more: nothing waits any longer, and nothing
-- is written.
example :
    let carol := UserRecord.plain "carol" .user3
    let a := (new {}).run
      [.handle 0 (.ownership [carol]), .handle 0 (.claim "carol"),
        .handle 1000 (.sensorOccupied carol.sensorId false)]
    let call := Call.handle 2000 (.claim "carol")
    a.deadline = some 4000 ∧ (a.after call).deadline = none ∧ (a.answer call).2 = .ok none := by
  decide

end Arbiter

end LightArbiter
