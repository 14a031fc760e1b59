import LightArbiter.Proofs.Safety

/-!
# Rivalry in the third tier

While users of the third tier own the light, it stays where it is, and the directory is not replaced,
the light passes from one of them to another only by a claim, and only to a user who is nearer. So it
never comes back to a user who has lost it.
-/

namespace LightArbiter

/-- Is the second user the first one, or nearer to the light? -/
def Succeeds (light : Option Position) (u v : UserRecord) : Prop :=
  v = u ∨ ∃ position, light = some position ∧ position.priority v < position.priority u

section Succeeds

variable {light : Option Position} {u v w : UserRecord}

lemma Succeeds.trans (h : Succeeds light u v) (h' : Succeeds light v w) : Succeeds light u w := by
  rcases h with rfl | ⟨position, rfl, hlt⟩
  · exact h'
  · rcases h' with rfl | ⟨_, heq, hlt'⟩
    · exact .inr ⟨position, rfl, hlt⟩
    · cases heq
      exact .inr ⟨position, rfl, Nat.lt_trans hlt' hlt⟩

lemma Succeeds.antisymm (h : Succeeds light u v) (h' : Succeeds light v u) : v = u := by
  rcases h with rfl | ⟨position, rfl, hlt⟩
  · rfl
  · rcases h' with rfl | ⟨_, heq, hlt'⟩
    · rfl
    · cases heq
      exact absurd hlt' (Nat.lt_asymm hlt)

end Succeeds

namespace Arbiter

variable {a b : Arbiter} {call : Call} {calls later : List Call}
  {answer : Except Refusal (Option Group)} {u v w : UserRecord}

/-! ### One call -/

/-- Does the call place the light, or replace the directory? -/
def Rearranges (a : Arbiter) (call : Call) : Prop :=
  (∃ now position, call = .handle now (.location position)) ∨
    (∃ now records, call = .handle now (.ownership records)) ∧ a.Accepts call

lemma Effect.kept (e : Effect a call b answer)
    (hplace : ∀ now position, call ≠ .handle now (.location position))
    (hinstall : ∀ now records group, call = .handle now (.ownership records) →
      answer ≠ .ok group) :
    b.light = a.light ∧ b.directory = a.directory := by
  cases e with
  | place => exact absurd rfl (hplace _ _)
  | install _ => exact absurd rfl (hinstall _ _ _ rfl)
  | depart =>
    rw [postpone_window]
    exact ⟨rfl, rfl⟩
  | wait _ | expire _ _ | refuse _ | arrive | grant _ => exact ⟨rfl, rfl⟩

lemma kept_of_not_rearranges (hcall : ¬a.Rearranges call) :
    (a.after call).light = a.light ∧ (a.after call).directory = a.directory := by
  apply (effect_after a call).kept
  · intro now position heq
    exact hcall (.inl ⟨now, position, heq⟩)
  · intro now records group heq haccepts
    exact hcall (.inr ⟨⟨now, records, heq⟩, group, haccepts⟩)

/-- A claim that makes another user the owner is that of a user who is nearer to the light. -/
lemma Coherent.nearer_of_claim (h : Coherent a) {now : Time} {userId : String}
    {group : Option Group} (e : Effect a (.handle now (.claim userId)) b (.ok group))
    (hu : a.winner = some u) (hv : b.winner = some v) (hne : v.userId ≠ u.userId) :
    ∃ position, a.light = some position ∧ position.priority v < position.priority u := by
  cases e with
  | grant hr =>
    cases (h.winner_grant hr).symm.trans hv
    have hobjection := (claimant_eq_ok_iff.mp hr).2.2
    exact (incumbentObjection_eq_none_iff.mp hobjection u hu).2 hne.symm

/-- In the third tier the owner changes only by a claim, and only to a nearer user. -/
lemma Coherent.claim_of_successor (h : Coherent a) (hu : a.winner = some u)
    (hv : (a.after call).winner = some v) (htier : v.tier = .user3)
    (hne : v.userId ≠ u.userId) :
    ((∃ now, call = .handle now (.claim v.userId)) ∧ a.Accepts call) ∧
      ∃ position, a.light = some position ∧ position.priority v < position.priority u := by
  have e := effect_after a call
  have hnew : ∀ w, a.winner = some w → w.tier = .user3 → w.userId ≠ v.userId := by
    intro w hw _
    cases hu.symm.trans hw
    exact hne.symm
  obtain ⟨⟨now, rfl⟩, group, haccepts⟩ := h.claim_of_effect e hv htier hnew
  rw [haccepts] at e
  exact ⟨⟨⟨now, rfl⟩, group, haccepts⟩, h.nearer_of_claim e hu hv hne⟩

lemma Coherent.succeeds_after (h : Coherent a) (hu : a.winner = some u)
    (hcall : ¬a.Rearranges call) (hv : (a.after call).winner = some v) (htier : v.tier = .user3) :
    Succeeds a.light u v := by
  by_cases hid : v.userId = u.userId
  · have hlisted : v ∈ (a.after call).directory.records := (h.after call).listed v hv
    rw [(kept_of_not_rearranges hcall).2] at hlisted
    exact .inl (Directory.eq_of_userId_eq hlisted (h.listed u hu) hid)
  · exact .inr (h.claim_of_successor hu hv htier hid).2

/-! ### Many calls -/

/-- Does a user of the third tier own the light? -/
def OwnedByUser3 (a : Arbiter) : Prop :=
  ∃ w, a.winner = some w ∧ w.tier = .user3

/-- Do users of the third tier own the light all the time, and does no call rearrange anything? -/
def Contest : Arbiter → List Call → Prop
  | a, [] => a.OwnedByUser3
  | a, call :: calls => a.OwnedByUser3 ∧ ¬a.Rearranges call ∧ Contest (a.after call) calls

lemma Contest.owned (h : Contest a calls) : a.OwnedByUser3 := by
  cases calls with
  | nil => exact h
  | cons call calls => exact h.1

lemma contest_append :
    Contest a (calls ++ later) ↔ Contest a calls ∧ Contest (a.run calls) later := by
  induction calls generalizing a with
  | nil => exact ⟨fun h => ⟨h.owned, h⟩, fun h => h.2⟩
  | cons call calls ih => simp only [List.cons_append, Contest, ih, run_cons, and_assoc]

/-- Of two owners in a contest, the later one is the same or nearer. -/
lemma Contest.succeeds (hcontest : Contest a calls) (h : Coherent a) (hu : a.winner = some u)
    (hv : (a.run calls).winner = some v) :
    Succeeds a.light u v ∧ (a.run calls).light = a.light ∧
      (a.run calls).directory = a.directory := by
  induction calls generalizing a u with
  | nil =>
    cases hu.symm.trans hv
    exact ⟨.inl rfl, rfl, rfl⟩
  | cons call calls ih =>
    obtain ⟨-, hcall, hrest⟩ := hcontest
    -- After the first call somebody of the third tier owns the light, at or before the last owner.
    obtain ⟨w, hw, htier⟩ := hrest.owned
    have hfirst := h.succeeds_after hu hcall hw htier
    obtain ⟨hlight, hdirectory⟩ := kept_of_not_rearranges hcall
    obtain ⟨hlater, hlight', hdirectory'⟩ := ih hrest (h.after call) hw hv
    rw [hlight] at hlater
    exact ⟨hfirst.trans hlater, hlight'.trans hlight, hdirectory'.trans hdirectory⟩

/-- In a contest no owner comes back after another one. -/
lemma Contest.not_back (hcontest : Contest a (calls ++ later)) (h : Coherent a)
    (hu : a.winner = some u) (hv : (a.run calls).winner = some v)
    (hw : (a.run (calls ++ later)).winner = some w) (hne : v.userId ≠ u.userId) :
    w.userId ≠ u.userId := by
  obtain ⟨hcontest, hcontest'⟩ := contest_append.mp hcontest
  rw [run_append] at hw
  have h' : Coherent (a.run calls) := h.run calls
  obtain ⟨hfirst, hlight, hdirectory⟩ := hcontest.succeeds h hu hv
  obtain ⟨hlater, -, hdirectory'⟩ := hcontest'.succeeds h' hv hw
  intro hid
  have hlisted := (h'.run later).listed w hw
  rw [hdirectory', hdirectory] at hlisted
  -- No other record has the id of the first owner, who would then be nearer than the second one.
  have hback : w = u := Directory.eq_of_userId_eq hlisted (h.listed u hu) hid
  rw [hlight, hback] at hlater
  exact hne (congrArg UserRecord.userId (hfirst.antisymm hlater))

/--
After every history, as long as users of the third tier own the light and no call places it or
replaces the directory: a call that changes the owner is a claim of the new owner that is not
refused, and the new owner is nearer to the light than the one before; and a user who has lost the
light does not get it back.
-/
theorem nearer_of_new_owner (config : Config) (history calls : List Call)
    (hcontest : Contest ((new config).run history) calls) :
    let a := (new config).run history
    (∀ earlier call rest u v, calls = earlier ++ call :: rest →
      (a.run earlier).winner = some u → (a.run (earlier ++ [call])).winner = some v →
        v.userId ≠ u.userId →
          ((∃ now, call = .handle now (.claim v.userId)) ∧ (a.run earlier).Accepts call) ∧
            ∃ position, a.light = some position ∧ position.priority v < position.priority u) ∧
      ∀ first second third rest u v w, calls = first ++ second ++ third ++ rest →
        (a.run first).winner = some u → (a.run (first ++ second)).winner = some v →
          (a.run (first ++ second ++ third)).winner = some w →
            v.userId ≠ u.userId → w.userId ≠ u.userId := by
  intro a
  have h : Coherent a := coherent_run config history
  constructor
  · intro earlier call rest u v hcalls hu hv hne
    rw [hcalls] at hcontest
    obtain ⟨hearlier, -, -, hrest⟩ := contest_append.mp hcontest
    obtain ⟨u₀, hu₀, -⟩ := hearlier.owned
    rw [← (hearlier.succeeds h hu₀ hu).2.1]
    rw [run_append] at hv
    obtain ⟨v', hv', htier⟩ := hrest.owned
    cases hv.symm.trans hv'
    exact (h.run earlier).claim_of_successor hu hv htier hne
  · intro first second third rest u v w hcalls hu hv hw hne
    have hcontest : Contest a (first ++ (second ++ third) ++ rest) := by
      simpa only [hcalls, List.append_assoc] using hcontest
    obtain ⟨-, hcontest⟩ := contest_append.mp (contest_append.mp hcontest).1
    rw [run_append] at hv
    rw [List.append_assoc, run_append] at hw
    exact hcontest.not_back (h.run first) hu hv hw hne

/-- A user at a distance of 1 takes the light over from one at a distance of 3, who comes back and asks
for it again in vain. -/
theorem nearer_of_new_owner_takeover :
    let far := { UserRecord.plain "far" .user3 with
      x := ⟨false, ⟨0x4008000000000000, by decide⟩, by decide⟩ }
    let near := { UserRecord.plain "near" .user3 with
      x := ⟨false, ⟨0x3FF0000000000000, by decide⟩, by decide⟩ }
    let history : List Call := [.handle 0 (.location ⟨Coordinate.zero, Coordinate.zero⟩),
      .handle 0 (.ownership [far, near]), .handle 0 (.claim "far")]
    let takeover : Call := .handle 1000 (.claim "near")
    let rest : List Call := [.handle 2000 (.sensorOccupied far.sensorId true),
      .handle 3000 (.claim "far")]
    let a := (new {}).run history
    Contest a (takeover :: rest) ∧ a.winner = some far ∧ (a.after takeover).winner = some near ∧
      (∃ position, a.light = some position ∧ position.priority near < position.priority far) ∧
      ∀ w, ((a.after takeover).run rest).winner = some w → w.userId ≠ far.userId := by
  intro far near history takeover rest a
  have hfar : a.winner = some far := by decide +kernel
  have hnear : (a.after takeover).winner = some near := by decide +kernel
  have hnear' : ((a.after takeover).run (rest.take 1)).winner = some near := by decide +kernel
  have hlast : ((a.after takeover).run rest).winner = some near := by decide +kernel
  have hcontest : Contest a (takeover :: rest) := by
    refine ⟨⟨far, hfar, rfl⟩, ?_, ⟨near, hnear, rfl⟩, ?_, ⟨near, hnear', rfl⟩, ?_, near, hlast, rfl⟩
    all_goals simp [takeover, Rearranges]
  have hfirst : (a.run []).winner = some far := by rw [run_nil, hfar]
  have hsecond : (a.run [takeover]).winner = some near := by rw [run_cons, run_nil, hnear]
  obtain ⟨hnearer, hback⟩ := nearer_of_new_owner {} history (takeover :: rest) hcontest
  refine ⟨hcontest, hfar, hnear, ?_, ?_⟩
  · exact (hnearer [] takeover rest far near rfl hfirst hsecond (by decide)).2
  · intro w hw
    rw [← run_cons, ← List.singleton_append] at hw
    exact hback [] [takeover] rest [] far near w rfl hfirst hsecond hw (by decide)

end Arbiter

end LightArbiter
