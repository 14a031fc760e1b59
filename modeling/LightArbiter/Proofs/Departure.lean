import LightArbiter.Proofs.Coherence

/-!
# Departures

An owner whose sensor sees nobody any more goes on owning the light. It passes to a user of a lower
tier, or becomes free, when a window has ended that began no earlier than the owner's departure, or
before that, when another sensor sees somebody.
-/

namespace LightArbiter

namespace Arbiter

variable {config : Config} {a b : Arbiter} {call : Call} {calls : List Call} {r w : UserRecord}
  {t : Time} {answer : Except Refusal (Option Group)}

/-! ### Absence of a user -/

/-- Does the call say that the user is present, by a reading or by a claim that is not refused? -/
def Affirms (a : Arbiter) (w : UserRecord) (call : Call) : Prop :=
  (∃ now, call = .handle now (.sensorOccupied w.sensorId true)) ∨
    (∃ now, call = .handle now (.claim w.userId)) ∧ a.Accepts call

/-- Does none of the calls say that the user is present? -/
def Unaffirmed (w : UserRecord) : Arbiter → List Call → Prop
  | _, [] => True
  | a, call :: calls => ¬a.Affirms w call ∧ Unaffirmed w (a.after call) calls

/--
Has the user's sensor reported at a time that it sees nobody, and has no later call said that the
user is present?
-/
def AbsentSince (a : Arbiter) (calls : List Call) (w : UserRecord) (t : Time) : Prop :=
  ∃ earlier later,
    calls = earlier ++ .handle t (.sensorOccupied w.sensorId false) :: later ∧
      Unaffirmed w ((a.run earlier).after (.handle t (.sensorOccupied w.sensorId false))) later

lemma unaffirmed_append {later : List Call} :
    Unaffirmed w a (calls ++ later) ↔ Unaffirmed w a calls ∧ Unaffirmed w (a.run calls) later := by
  induction calls generalizing a with
  | nil => simp [Unaffirmed]
  | cons call calls ih => simp only [List.cons_append, Unaffirmed, ih, run_cons, and_assoc]

lemma absentSince_append_departure :
    AbsentSince a (calls ++ [.handle t (.sensorOccupied w.sensorId false)]) w t :=
  ⟨calls, [], rfl, trivial⟩

lemma AbsentSince.append (h : AbsentSince a calls w t) (hcall : ¬(a.run calls).Affirms w call) :
    AbsentSince a (calls ++ [call]) w t := by
  obtain ⟨earlier, later, rfl, hlater⟩ := h
  refine ⟨earlier, later ++ [call], by simp, unaffirmed_append.mpr ⟨hlater, ?_, trivial⟩⟩
  rwa [run_append, run_cons] at hcall

lemma AbsentSince.mem (h : AbsentSince a calls w t) :
    .handle t (.sensorOccupied w.sensorId false) ∈ calls := by
  obtain ⟨earlier, later, rfl, -⟩ := h
  simp

lemma AbsentSince.le_time (h : AbsentSince a calls w t) (horder : InOrder (calls ++ [call])) :
    t ≤ call.time :=
  (List.pairwise_append.mp horder).2.2 _ h.mem call (List.mem_singleton_self call)

/-! ### An absent owner -/

/-- The outcome of a departure falls due when a window that starts with it has ended. -/
lemma deadline_postpone {candidate : Option UserRecord} {now : Time} {deferral : Deferral}
    (hp : (a.postpone candidate now).window.pending = some deferral) :
    deferral.deadline = now + a.config.debounce := by
  rw [postpone] at hp
  split_ifs at hp <;> cases hp
  rfl

/-- What waits after a call has waited before, or waits for a window that starts with the call. -/
lemma Effect.deadline (e : Effect a call b answer) {deferral : Deferral}
    (hp : b.window.pending = some deferral) :
    a.window.pending = some deferral ∨ deferral.deadline = call.time + a.config.debounce := by
  cases e with
  | wait _ | place | refuse _ => exact .inl hp
  | expire _ _ | install _ | arrive | grant _ => cases hp
  | depart => exact .inr (deadline_postpone (a := a.noting _ false) hp)

lemma not_affirms_of_refused {now : Time} {command : Command} {refusal : Refusal}
    (refused : (a.handle now command).2 = .error refusal) :
    ¬a.Affirms w (.handle now command) := by
  rintro (⟨_, heq⟩ | ⟨-, group, haccepted⟩)
  · cases heq
    cases refused
  · cases refused.symm.trans haccepted

/-- If the owner is absent after a call then the call says so, or the same user was the owner, and
was absent, already before. -/
lemma Coherent.absent_before (h : Coherent a) (e : Effect a call b answer)
    (hw : b.winner = some w) (habsent : b.occupancy.isOccupied w.sensorId = false) :
    (∃ now, call = .handle now (.sensorOccupied w.sensorId false)) ∨
      a.winner = some w ∧ a.occupancy.isOccupied w.sensorId = false ∧ ¬a.Affirms w call := by
  -- The commits leave no absent owner: resolution yields only users who are present.
  have hresolve {d : Directory} {o : Occupancy} {c : Continuity} (hr : d.resolve o c = some w) :
      o.isOccupied w.sensorId ≠ false := by
    simp [(Directory.mem_of_resolve hr).2]
  cases e with
  | wait _ => exact .inr ⟨hw, habsent, by simp [Affirms]⟩
  | place => exact .inr ⟨hw, habsent, by simp [Affirms]⟩
  | refuse refused => exact .inr ⟨hw, habsent, not_affirms_of_refused refused⟩
  | expire hp _ => exact absurd habsent (hresolve ((h.winner_expire hp).symm.trans hw))
  | install _ => exact absurd habsent (hresolve ((winner_install (a := a)).symm.trans hw))
  | arrive => exact absurd habsent (hresolve ((h.winner_arrive _).symm.trans hw))
  | grant hr =>
    have heq := (h.winner_grant hr).symm.trans hw
    cases heq
    have hpresent : (a.occupancy.set w.sensorId true).isOccupied w.sensorId = false := habsent
    simp [Occupancy.isOccupied_set] at hpresent
  | @depart now sensorId =>
    rw [winner_depart] at hw
    by_cases hsensor : sensorId = w.sensorId
    · exact .inl ⟨now, by rw [hsensor]⟩
    · rw [postpone_window, noting, Occupancy.isOccupied_set, if_neg hsensor] at habsent
      exact .inr ⟨hw, habsent, by simp [Affirms]⟩

/-- An absent owner has left, and what waits does so until the end of a window after that. -/
lemma exists_absentSince (config : Config) (calls : List Call) (horder : InOrder calls)
    (hw : ((new config).run calls).winner = some w)
    (habsent : ((new config).run calls).occupancy.isOccupied w.sensorId = false) :
    ∃ t, AbsentSince (new config) calls w t ∧
      ∀ deferral, ((new config).run calls).window.pending = some deferral →
        t + config.debounce ≤ deferral.deadline := by
  induction calls using List.reverseRecOn with
  | nil => cases hw
  | append_singleton calls call ih =>
    have h : Coherent ((new config).run calls) := coherent_run config calls
    have hconfig : ((new config).run calls).config = config := config_run config calls
    rw [run_append] at hw habsent ⊢
    have e := effect_after ((new config).run calls) call
    rcases h.absent_before e hw habsent with ⟨now, rfl⟩ | ⟨hw', habsent', hcall⟩
    · refine ⟨now, absentSince_append_departure, ?_⟩
      intro deferral hp
      rw [deadline_postpone (a := ((new config).run calls).noting _ false) hp]
      show now + config.debounce ≤ now + ((new config).run calls).config.debounce
      rw [hconfig]
    · obtain ⟨t, ht, hdeadline⟩ := ih (List.pairwise_append.mp horder).1 hw' habsent'
      refine ⟨t, ht.append hcall, ?_⟩
      intro deferral hp
      rcases e.deadline hp with hp' | hdeadline'
      · exact hdeadline deferral hp'
      · rw [hdeadline', hconfig]
        exact Nat.add_le_add_right (ht.le_time horder) _

/-! ### The owner is lowered -/

/-- Is the light, after the call, free or owned by a user of a lower tier than this one's? -/
def Lowers (a : Arbiter) (w : UserRecord) (call : Call) : Prop :=
  ∀ r, (a.after call).winner = some r → w.tier < r.tier

/--
Is the call an arrival at another sensor while the owner is absent, with nobody of the first two tiers
then present whose tier is as high as the owner's?
-/
def CutsShort (a : Arbiter) (w : UserRecord) (call : Call) : Prop :=
  ∃ now sensorId, call = .handle now (.sensorOccupied sensorId true) ∧ sensorId ≠ w.sensorId ∧
    a.occupancy.isOccupied w.sensorId = false ∧
    ∀ r ∈ a.directory.present (a.occupancy.set sensorId true), r.tier ≠ .user3 → w.tier < r.tier

/-- Resolution passes the light to a lower tier exactly if the owner is absent and nobody else of
the first two tiers who is present stands as high. -/
lemma successor_lower_iff (hlisted : a.directory.Lists a.winner) (hw : a.winner = some w) :
    (∀ r, a.successor = some r → w.tier < r.tier) ↔
      a.occupancy.isOccupied w.sensorId = false ∧
        ∀ r ∈ a.directory.present a.occupancy, r.tier ≠ .user3 → w.tier < r.tier := by
  constructor
  · intro hlower
    have hlt {r : UserRecord} (hr : a.directory.Eligible a.occupancy
        { committed := a.winner.map UserRecord.userId } r) : w.tier < r.tier := by
      obtain ⟨s, hs, hle⟩ := hr.exists_resolve_le
      exact Nat.lt_of_lt_of_le (hlower s hs) (UserRecord.tier_le_of_standing_le hle)
    constructor
    · by_contra hpresent
      refine Nat.lt_irrefl _ (hlt (Directory.eligible_iff.mpr ⟨hlisted w hw, ?_, fun _ => ?_⟩))
      · exact Bool.not_eq_false _ ▸ hpresent
      · rw [hw, Option.map_some, Continuity.allows_committed]
    · intro r hr htier
      exact hlt ⟨hr, Continuity.admits_of_ne_user3 htier⟩
  · rintro ⟨habsent, hlower⟩ r hr
    have hpresent := Directory.mem_of_resolve hr
    refine hlower r (Directory.mem_present.mpr hpresent) ?_
    intro htier
    cases hw.symm.trans (winner_of_successor hlisted hr htier)
    exact absurd habsent (by simp [hpresent.2])

/-- While the owner is absent, an outcome waits. -/
lemma Coherent.isSome_pending (h : Coherent a) (hw : a.winner = some w)
    (habsent : a.occupancy.isOccupied w.sensorId = false) : a.window.pending.isSome := by
  rw [Option.isSome_iff_ne_none]
  intro hnone
  rw [(Directory.mem_present.mp (h.mem_present_of_idle hnone hw)).2] at habsent
  cases habsent

lemma Coherent.lowers_arrival_iff (h : Coherent a) (hw : a.winner = some w) {now : Time}
    {sensorId : String} :
    a.Lowers w (.handle now (.sensorOccupied sensorId true)) ↔
      a.CutsShort w (.handle now (.sensorOccupied sensorId true)) := by
  have hwinner : (a.after (.handle now (.sensorOccupied sensorId true))).winner =
      (a.noting sensorId true).successor := h.winner_arrive sensorId
  rw [Lowers, hwinner, successor_lower_iff (a := a.noting sensorId true) h.listed hw]
  constructor
  · rintro ⟨habsent, hlower⟩
    rw [noting, Occupancy.isOccupied_set] at habsent
    split_ifs at habsent with hsensor
    exact ⟨now, sensorId, rfl, hsensor, habsent, hlower⟩
  · rintro ⟨_, _, heq, hsensor, habsent, hlower⟩
    cases heq
    refine ⟨?_, hlower⟩
    rw [noting, Occupancy.isOccupied_set, if_neg hsensor, habsent]

/-- A call that lowers the owner ends a window that is due while the owner is absent, or cuts it
short, unless it replaces the directory. -/
lemma Coherent.due_or_cutsShort (h : Coherent a) (e : Effect a call b answer)
    (hw : a.winner = some w) (hlower : ∀ r, b.winner = some r → w.tier < r.tier)
    (hcall : ¬((∃ now records, call = .handle now (.ownership records)) ∧
      ∃ group, answer = .ok group)) :
    (a.occupancy.isOccupied w.sensorId = false ∧
      ∃ deferral, a.window.pending = some deferral ∧ deferral.deadline ≤ call.time) ∨
      a.CutsShort w call := by
  have hkept : b.winner ≠ some w := fun hw' => Nat.lt_irrefl _ (hlower w hw')
  cases e with
  | wait _ | place | refuse _ => exact absurd hw hkept
  | depart => exact absurd (winner_depart.trans hw) hkept
  | install _ => exact absurd ⟨⟨_, _, rfl⟩, _, rfl⟩ hcall
  | expire hp hdue =>
    rw [h.winner_expire hp] at hlower
    exact .inl ⟨((successor_lower_iff h.listed hw).mp hlower).1, _, hp, hdue⟩
  | arrive => exact .inr ((h.lowers_arrival_iff hw).mp hlower)
  | grant hr =>
    obtain ⟨-, -, htier, howner⟩ := claimant_spec hr
    have hlt := hlower _ (h.winner_grant hr)
    rw [htier, howner w hw] at hlt
    exact absurd hlt (Nat.lt_irrefl _)

/--
After every history in order, a call that lowers the owner, and that is no new directory, comes when
a window has ended since the owner has left, and nothing has said since that the owner is present; or
it is an arrival at another sensor that cuts the window short. Every such arrival lowers the owner,
while an outcome waits.
-/
theorem absentSince_or_cutsShort_of_lowers (config : Config) (calls : List Call) (call : Call)
    (horder : InOrder (calls ++ [call])) (hw : ((new config).run calls).winner = some w)
    (hcall : ¬((∃ now records, call = .handle now (.ownership records)) ∧
      ((new config).run calls).Accepts call)) :
    let a := (new config).run calls
    (a.Lowers w call →
      (∃ t, AbsentSince (new config) calls w t ∧ t + config.debounce ≤ call.time) ∨
        a.CutsShort w call) ∧
      (a.CutsShort w call → a.Lowers w call ∧ a.window.pending.isSome) := by
  intro a
  have h : Coherent a := coherent_run config calls
  constructor
  · intro hlower
    rcases h.due_or_cutsShort (effect_after a call) hw hlower hcall with
      ⟨habsent, deferral, hp, hdue⟩ | hcut
    · obtain ⟨t, ht, hdeadline⟩ :=
        exists_absentSince config calls (List.pairwise_append.mp horder).1 hw habsent
      exact .inl ⟨t, ht, (hdeadline deferral hp).trans hdue⟩
    · exact .inr hcut
  · intro hcut
    obtain ⟨now, sensorId, rfl, hsensor, habsent, hlower⟩ := hcut
    refine ⟨(h.lowers_arrival_iff hw).mpr ?_, h.isSome_pending hw habsent⟩
    exact ⟨now, sensorId, rfl, hsensor, habsent, hlower⟩

/-- A user of the first tier. -/
def visitor : UserRecord := .plain "alice" .user1

/-- The visitor is listed, arrives, and leaves a second later. -/
def visit : List Call :=
  [.tick 0, .handle 0 (.ownership [visitor]),
    .tick 0, .handle 0 (.sensorOccupied visitor.sensorId true),
    .tick 1000, .handle 1000 (.sensorOccupied visitor.sensorId false)]

/-- Three seconds after the visitor has left, the light becomes free. -/
theorem lowers_visitor_at_end_of_window :
    ((new {}).run visit).Lowers visitor (.tick 4000) ∧
      ∃ t, AbsentSince (new {}) visit visitor t ∧ t + 3000 ≤ 4000 := by
  have hwinner : (((new {}).run visit).after (.tick 4000)).winner = none := by decide
  have hlower : ((new {}).run visit).Lowers visitor (.tick 4000) := by
    intro r hr
    cases hwinner.symm.trans hr
  refine ⟨hlower, ?_⟩
  rcases (absentSince_or_cutsShort_of_lowers {} visit (.tick 4000) (by decide) (by decide)
    (by simp)).1 hlower with h | ⟨_, _, heq, -⟩
  · exact h
  · cases heq

/-- An arrival in the hallway, a second after the visitor has left, takes the light from the
visitor. -/
theorem hallway_cuts_visit_short :
    let calls := visit ++ [.tick 2000]
    let call : Call := .handle 2000 (.sensorOccupied "hallway" true)
    InOrder (calls ++ [call]) ∧ Punctual (calls ++ [call]) ∧
      ((new {}).run calls).winner = some visitor ∧
      (((new {}).run calls).after call).winner = none ∧
      ∀ t, AbsentSince (new {}) calls visitor t → call.time < t + ({} : Config).debounce := by
  refine ⟨by decide, ⟨rfl, rfl, rfl, rfl, trivial⟩, by decide, by decide, ?_⟩
  intro t ht
  have ht : t = 1000 := by simpa [visit] using ht.mem
  subst ht
  decide

end Arbiter

end LightArbiter
