import LightArbiter.Proofs.Enrolment

/-!
# Precedence among users

Resolution is specified without a look at how it searches: who is entitled to the light follows from
a record, the readings and the users that may continue, and of two users the one in the higher tier
precedes, or in the same tier the one whose id has the lower bytes. The outcome is the entitled user
that precedes all other entitled ones, whatever the order in which the payload lists them.
-/

namespace LightArbiter

/-- Is the user entitled to the light, that is, present and in the third tier able to continue? -/
def UserRecord.Entitled (r : UserRecord) (o : Occupancy) (c : Continuity) : Prop :=
  o.isOccupied r.sensorId = true ∧
    (r.tier = .user1 ∨ r.tier = .user2 ∨
      r.tier = .user3 ∧ (c.retained = some r.userId ∨ c.committed = some r.userId))

/-- Does the user come before another: in a higher tier, or in the same one with lower bytes? -/
def UserRecord.Precedes (r s : UserRecord) : Prop :=
  r.tier < s.tier ∨ r.tier = s.tier ∧ bytesOf r.userId < bytesOf s.userId

variable {d : Directory} {o p : Occupancy} {c : Continuity} {r s w : UserRecord}
  {records : List UserRecord}

instance : Decidable (r.Entitled o c) := inferInstanceAs (Decidable (_ ∧ _))

instance : Decidable (r.Precedes s) := inferInstanceAs (Decidable (_ ∨ _))

lemma UserRecord.entitled_iff :
    r.Entitled o c ↔ o.isOccupied r.sensorId = true ∧
      (r.tier = .user3 → c.allows r.userId = true) := by
  rw [Entitled, Continuity.allows]
  cases r.tier <;> simp

/-- Users who stand in order, if they are not the same, stand in the order of their bytes. -/
lemma UserRecord.precedes_iff (hne : r.userId ≠ s.userId) :
    r.Precedes s ↔ r.standing ≤ s.standing := by
  rw [Precedes, standing_le_iff, bytesOf_lt_iff]
  refine or_congr_right (and_congr_right fun _ => ?_)
  constructor
  · exact fun hlt => String.not_lt.mp (String.lt_asymm hlt)
  · intro hle
    by_contra hlt
    exact hne (String.le_antisymm hle (String.not_lt.mp hlt))

namespace Directory

/-- The readings of sensors that are not listed make no difference. -/
lemma resolve_congr (h : ∀ r ∈ d.records, p.isOccupied r.sensorId = o.isOccupied r.sensorId) :
    d.resolve p c = d.resolve o c := by
  simp only [resolve_eq_findSome?, firstOf, List.filter_congr h]

lemma Enrols.eligible_iff (h : d.Enrols records) :
    d.Eligible o c r ↔ r ∈ records ∧ r.Entitled o c := by
  rw [Directory.eligible_iff, UserRecord.entitled_iff, h.perm.mem_iff]

/-- Two users of a payload stand in order if the first precedes the other or is the same. -/
lemma Enrols.precedes_iff (h : d.Enrols records) (hr : r ∈ records) (hs : s ∈ records) :
    (r ≠ s → r.Precedes s) ↔ r.standing ≤ s.standing := by
  have hsame : r.userId = s.userId → r = s :=
    eq_of_userId_eq (h.perm.mem_iff.mpr hr) (h.perm.mem_iff.mpr hs)
  by_cases hrs : r = s
  · subst hrs
    exact iff_of_true (fun hne => absurd rfl hne) r.standing_le_refl
  · rw [← UserRecord.precedes_iff fun hid => hrs (hsame hid)]
    exact ⟨fun hprecedes => hprecedes hrs, fun hprecedes _ => hprecedes⟩

/--
In the directory of a payload, nobody is the outcome of resolution exactly if nobody in the payload
is entitled, and a user is the outcome exactly if that user is entitled and precedes every other
entitled user of the payload; so there is one such user if anybody is entitled at all. The outcome
depends on no other readings than those of the listed sensors, and is the same for every order of
the payload.
-/
theorem resolve_first_entitled (records : List UserRecord) (o : Occupancy) (c : Continuity)
    {d : Directory} (hd : ofRecords records = .ok d) :
    (d.resolve o c = none ↔ ∀ r ∈ records, ¬r.Entitled o c) ∧
    (∀ w, d.resolve o c = some w ↔
      w ∈ records ∧ w.Entitled o c ∧ ∀ r ∈ records, r.Entitled o c → w ≠ r → w.Precedes r) ∧
    (∀ p : Occupancy, (∀ r ∈ records, p.isOccupied r.sensorId = o.isOccupied r.sensorId) →
      d.resolve p c = d.resolve o c) ∧
    ∀ others, records.Perm others →
      ∃ d', ofRecords others = .ok d' ∧ d'.resolve o c = d.resolve o c := by
  have h : d.Enrols records := enrols_ofRecords hd
  refine ⟨?_, ?_, ?_, ?_⟩
  · simp only [resolve_eq_none_iff, h.eligible_iff, not_and]
  · intro w
    rw [resolve_eq_some_iff, h.eligible_iff, and_assoc]
    refine and_congr_right fun hw => and_congr_right fun _ => ?_
    constructor
    · intro hleast r hr hentitled
      exact (h.precedes_iff hw hr).mpr (hleast r (h.eligible_iff.mpr ⟨hr, hentitled⟩))
    · intro hfirst r heligible
      obtain ⟨hr, hentitled⟩ := h.eligible_iff.mp heligible
      exact (h.precedes_iff hw hr).mp (hfirst r hr hentitled)
  · intro p hp
    apply resolve_congr
    intro r hr
    exact hp r (h.perm.mem_iff.mp hr)
  · intro others hperm
    exact ⟨d, ofRecords_perm hd hperm, rfl⟩

/-- Two users of the third tier may continue, one kept and one shown, and nobody of a higher tier is
present. The id with the lower bytes comes first, which is the other one by code units of UTF-16. -/
theorem resolve_first_entitled_rivals :
    let kept := UserRecord.plain "😀" .user3
    let shown := UserRecord.plain "\uffff" .user3
    let absent := UserRecord.plain "bob" .user2
    let o := (Occupancy.empty.set kept.sensorId true).set shown.sensorId true
    let c : Continuity := { retained := some "😀", committed := some "\uffff" }
    ∃ d, ofRecords [kept, absent, shown] = .ok d ∧ kept.Entitled o c ∧ shown.Entitled o c ∧
      ¬absent.Entitled o c ∧ d.resolve o c = some shown := by
  intro kept shown absent o c
  have hdistinct : Distinct [kept, absent, shown] := ⟨by decide, by decide⟩
  obtain ⟨d, hd⟩ := exists_ofRecords_iff.mpr hdistinct
  have hkept : kept.Entitled o c := by decide
  have hshown : shown.Entitled o c := by decide
  have habsent : ¬absent.Entitled o c := by decide
  refine ⟨d, hd, hkept, hshown, habsent, ?_⟩
  refine ((resolve_first_entitled _ o c hd).2.1 shown).mpr ⟨by simp, hshown, ?_⟩
  decide

end Directory

end LightArbiter
