import LightArbiter.Proofs.History
import LightArbiter.Proofs.Resolution

/-!
# Coherence of an arbiter

What an arbiter shows, what it knows about users and sensors, and what waits in its window belong
together: the owner that the light shows is listed in the directory, an outcome waits exactly if the
light does not show what the readings call for, and no present user of the first two tiers stands
before the owner. `Coherent` collects these facts. They hold after every history.
-/

namespace LightArbiter

variable {d : Directory} {o : Occupancy} {r s w : UserRecord}

/-! ### Readings and records -/

lemma Occupancy.anyPresent_of_isOccupied {sensorId : String}
    (h : o.isOccupied sensorId = true) : o.anyPresent = true := by
  rw [Occupancy.isOccupied, Occupancy.reading?] at h
  cases hl : lookup Prod.fst sensorId o.readings with
  | none => simp [hl] at h
  | some reading =>
    have hr : reading.2 = true := by simpa [hl] using h
    exact List.any_eq_true.mpr ⟨reading, (mem_of_lookup hl).1, hr⟩

/-- Who is present after a sensor has reported nobody was present before. -/
lemma Directory.mem_present_of_set_false {sensorId : String}
    (h : r ∈ d.present (o.set sensorId false)) : r ∈ d.present o := by
  rw [Directory.mem_present, Occupancy.isOccupied_set] at h
  split_ifs at h with hs
  · simp at h
  · exact Directory.mem_present.mpr h

/-- Is the owner, if there is one, a record of the directory? -/
def Directory.Lists (d : Directory) (owner : Option UserRecord) : Prop :=
  ∀ r, owner = some r → r ∈ d.records

lemma Directory.lists_none : d.Lists none := by simp [Directory.Lists]

lemma Directory.lists_resolve {c : Continuity} : d.Lists (d.resolve o c) := fun _ h =>
  (Directory.mem_of_resolve h).1

/-- Owners that a directory lists are equal if they have the same id. -/
lemma Directory.Lists.eq_of_userId {owner other : Option UserRecord} (h : d.Lists owner)
    (h' : d.Lists other) (hid : owner.map UserRecord.userId = other.map UserRecord.userId) :
    owner = other := by
  match owner, other with
  | none, none => rfl
  | none, some _ | some _, none => cases hid
  | some r, some s => rw [eq_of_userId_eq (h r rfl) (h' s rfl) (Option.some.inj hid)]

/-- Owners that a directory lists are the same only if they are equal. -/
lemma Directory.Lists.sameOwner_iff {owner other : Option UserRecord} (ho : d.Lists owner)
    (ho' : d.Lists other) : sameOwner owner other = true ↔ owner = other := by
  constructor
  · intro h
    apply ho.eq_of_userId ho'
    match owner, other with
    | none, none => rfl
    | none, some _ | some _, none => simp [sameOwner] at h
    | some r, some s =>
      simp only [sameOwner, UserRecord.same, Bool.and_eq_true, beq_iff_eq] at h
      exact congrArg some h.1.1.1.1.1.1
  · rintro rfl
    exact sameOwner_self owner

namespace Arbiter

variable {config : Config} {a b : Arbiter} {candidate : Option UserRecord} {call : Call}
  {answer : Except Refusal (Option Group)}

/-! ### What committing and postponing do -/

/-- What the light shows. -/
def committed (a : Arbiter) : Scene := ⟨a.winner, a.present⟩

/-- What the light should show by the readings, with the owner that it shows going on. -/
def target (a : Arbiter) : Scene := a.scene a.successor

lemma lists_successor : a.directory.Lists a.successor := Directory.lists_resolve

lemma winner_of_shown {scene : Scene} (h : a.display.shown = some scene) :
    a.winner = scene.winner := by
  simp [winner, Display.winner, h]

lemma committed_of_shown {scene : Scene} (h : a.display.shown = some scene) :
    a.committed = scene := by
  simp [committed, winner, present, Display.winner, Display.present, h]

lemma shows_scene_iff (hw : a.directory.Lists a.winner) (hc : a.directory.Lists candidate) :
    a.display.shows (a.scene candidate) = true ↔ a.display.shown = some (a.scene candidate) := by
  cases h : a.display.shown with
  | none => simp [Display.shows, h]
  | some scene =>
    rw [winner_of_shown h] at hw
    obtain ⟨owner, present⟩ := scene
    simp only [Display.shows, h, Scene.same, scene, Option.map_some, Option.getD_some,
      Bool.and_eq_true, hc.sameOwner_iff hw, beq_iff_eq, Option.some.injEq, Scene.mk.injEq]
    exact and_congr eq_comm eq_comm

lemma shown_commit (hw : a.directory.Lists a.winner) (hc : a.directory.Lists candidate) :
    (a.commit candidate).1.display.shown = some (a.scene candidate) := by
  simp only [commit, Display.commit]
  split_ifs with h
  · exact (shows_scene_iff hw hc).mp h
  · rfl

/-- After a commit the light shows the scene, and nothing waits. -/
lemma commit_eq (hw : a.directory.Lists a.winner) (hc : a.directory.Lists candidate) :
    (a.commit candidate).1 =
      { a with
        display := { a.display with shown := some (a.scene candidate) }
        window := Window.clear } := by
  simp only [commit, Display.commit]
  split_ifs with hshows
  · rw [← (shows_scene_iff hw hc).mp hshows]
  · rfl

/-- A group is written unless the light shows the scene already. -/
lemma group_commit (hw : a.directory.Lists a.winner) (hc : a.directory.Lists candidate) :
    (a.commit candidate).2 = if a.display.shown = some (a.scene candidate) then none
      else some ((a.scene candidate).directives a.display.palette) := by
  simp only [commit, Display.commit, shows_scene_iff hw hc]
  split_ifs <;> rfl

lemma winner_commit (hw : a.directory.Lists a.winner) (hc : a.directory.Lists candidate) :
    (a.commit candidate).1.winner = candidate :=
  winner_of_shown (shown_commit hw hc)

/-- An outcome waits unless the light shows the scene already. -/
lemma postpone_eq {now : Time} (hw : a.directory.Lists a.winner)
    (hc : a.directory.Lists candidate) :
    a.postpone candidate now =
      { a with
        window := if a.display.shown = some (a.scene candidate) then Window.clear
          else Window.schedule candidate (now + a.config.debounce) } := by
  simp only [postpone, shows_scene_iff hw hc]
  split_ifs <;> rfl

/-! ### Coherence -/

/-- What an arbiter shows, knows and lets wait belongs together. -/
structure Coherent (a : Arbiter) : Prop where
  /-- It is known what the light shows. -/
  shown : a.display.shown = some a.committed
  /-- The owner is listed in the directory. -/
  listed : a.directory.Lists a.winner
  /-- A light with an owner shows that somebody is near. -/
  lit : ∀ w, a.winner = some w → a.present = true
  /-- An outcome waits exactly if the light does not show what it should. -/
  waiting : a.window.pending = none ↔ a.committed = a.target
  /-- The outcome that waits is what the light should show. -/
  candidate : ∀ deferral, a.window.pending = some deferral → deferral.candidate = a.successor
  /-- No present user of the first two tiers stands before the owner. -/
  precedence : ∀ r ∈ a.directory.present a.occupancy, r.tier ≠ .user3 →
    ∃ w, a.winner = some w ∧ w.standing ≤ r.standing

lemma coherent_new (config : Config) : Coherent (new config) where
  shown := rfl
  listed := Directory.lists_none
  lit w h := by cases h
  waiting := iff_of_true rfl rfl
  candidate deferral h := by cases h
  precedence r hr := by cases hr

/-- After a commit of an outcome that resolution confirms, everything belongs together. -/
lemma coherent_commit (hw : a.directory.Lists a.winner)
    (hstable : a.directory.resolve a.occupancy { committed := candidate.map UserRecord.userId } =
      candidate) : Coherent (a.commit candidate).1 := by
  have hc : a.directory.Lists candidate := hstable ▸ Directory.lists_resolve
  have hshown := shown_commit hw hc
  have hwinner := winner_commit hw hc
  have hcommitted := committed_of_shown hshown
  have hsuccessor : (a.commit candidate).1.successor = candidate := by
    rw [successor, hwinner]
    exact hstable
  refine ⟨by rw [hcommitted, hshown], by rw [hwinner]; exact hc, ?_, ?_, ?_, ?_⟩
  · intro w h
    rw [hwinner] at h
    subst h
    exact (congrArg Scene.present hcommitted).trans
      (Occupancy.anyPresent_of_isOccupied (Directory.mem_of_resolve hstable).2)
  · refine iff_of_true rfl ?_
    rw [hcommitted, target, hsuccessor]
    rfl
  · intro deferral h
    cases h
  · intro r hr htier
    obtain ⟨w, hw', hle⟩ :=
      Directory.Eligible.exists_resolve_le ⟨hr, Continuity.admits_of_ne_user3 htier⟩
    exact ⟨w, hwinner.trans (hstable.symm.trans hw'), hle⟩

/-- A departure lets the new outcome wait, unless there is nothing to change. -/
lemma Coherent.depart (h : Coherent a) (sensorId : String) (now : Time) :
    Coherent ((a.noting sensorId false).postpone (a.noting sensorId false).successor now) := by
  have hprecedence : ∀ r ∈ a.directory.present (a.occupancy.set sensorId false),
      r.tier ≠ .user3 → ∃ w, a.winner = some w ∧ w.standing ≤ r.standing :=
    fun r hr => h.precedence r (Directory.mem_present_of_set_false hr)
  rw [postpone_eq (a := a.noting sensorId false) h.listed lists_successor]
  split_ifs with hshown
  · refine ⟨h.shown, h.listed, h.lit, iff_of_true rfl (committed_of_shown hshown), ?_,
      hprecedence⟩
    intro deferral hp
    cases hp
  · refine ⟨h.shown, h.listed, h.lit, iff_of_false (by simp [Window.schedule]) ?_, ?_,
      hprecedence⟩
    · intro heq
      exact hshown (h.shown.trans (congrArg some heq))
    · intro deferral hp
      cases hp
      rfl

/-- A new directory leaves no owner to go by until the next commit. -/
lemma winner_renewing : (a.renewing d).winner = none := by
  show (if a.winner.isSome then a.display.forget else a.display).winner = none
  split_ifs with h
  · rfl
  · exact Option.not_isSome_iff_eq_none.mp h

lemma lists_renewing : d.Lists (a.renewing d).winner := by
  rw [winner_renewing]
  exact Directory.lists_none

/-- Nothing speaks against a claim if the light is free, or if its owner is the claimant or another
user of the third tier who is farther from the light. -/
lemma incumbentObjection_eq_none_iff :
    a.incumbentObjection r = none ↔ ∀ w, a.winner = some w → w.tier = .user3 ∧
      (w.userId ≠ r.userId →
        ∃ light, a.light = some light ∧ light.priority r < light.priority w) := by
  rw [incumbentObjection]
  cases a.winner with
  | none => simp
  | some w =>
    by_cases htier : w.tier = .user3
    · by_cases hid : w.userId = r.userId
      · simp [htier, hid]
      · cases a.light with
        | none => simp [htier, hid]
        | some light => simp [htier, hid, Magnitude.not_le]
    · simp [htier]

lemma claimant_eq_ok_iff {userId : String} :
    a.claimant userId = .ok r ↔
      a.directory.user? userId = some r ∧ r.tier = .user3 ∧ a.incumbentObjection r = none := by
  constructor
  · intro h
    rw [claimant] at h
    split at h
    · cases h
    · rename_i hr
      split_ifs at h with htier
      split at h
      · cases h
      · rename_i hobjection
        cases h
        exact ⟨hr, not_not.mp htier, hobjection⟩
  · rintro ⟨hr, htier, hobjection⟩
    simp [claimant, hr, htier, hobjection]

lemma claimant_spec {userId : String} (h : a.claimant userId = .ok r) :
    r ∈ a.directory.records ∧ r.userId = userId ∧ r.tier = .user3 ∧
      ∀ w, a.winner = some w → w.tier = .user3 := by
  obtain ⟨hr, htier, hobjection⟩ := claimant_eq_ok_iff.mp h
  obtain ⟨hmem, hid⟩ := Directory.mem_of_user? hr
  exact ⟨hmem, hid, htier, fun w hw => (incumbentObjection_eq_none_iff.mp hobjection w hw).1⟩

/-- While the light is free or owned by a user of the third tier, nobody of a higher tier is
present. -/
lemma Coherent.tier_of_present (h : Coherent a) (howner : ∀ w, a.winner = some w → w.tier = .user3)
    (hr : r ∈ a.directory.present a.occupancy) : r.tier = .user3 := by
  by_contra hne
  obtain ⟨w, hw, hle⟩ := h.precedence r hr hne
  have htier := UserRecord.tier_le_of_standing_le hle
  rw [howner w hw] at htier
  exact hne (Tier.eq_user3_of_le htier)

/-- A claim that is granted makes its user the owner whom resolution confirms. -/
lemma Coherent.grant {userId : String} (h : Coherent a) (hr : a.claimant userId = .ok r) :
    Coherent ((a.noting r.sensorId true).commit (some r)).1 := by
  obtain ⟨hmem, -, htier, howner⟩ := claimant_spec hr
  refine coherent_commit h.listed (Directory.resolve_of_user3 hmem ?_ ?_ ?_)
  · simp [noting, Occupancy.isOccupied_set]
  · intro userId
    simp
  · intro s hs
    obtain ⟨hs, hpresent⟩ := Directory.mem_present.mp hs
    by_cases hsensor : r.sensorId = s.sensorId
    · rw [← Directory.eq_of_sensorId_eq hmem hs hsensor, htier]
    · rw [noting, Occupancy.isOccupied_set, if_neg hsensor] at hpresent
      exact h.tier_of_present howner (Directory.mem_present.mpr ⟨hs, hpresent⟩)

/-- Coherence is kept by whatever a call does. -/
lemma Coherent.effect (h : Coherent a) (e : Effect a call b answer) : Coherent b := by
  cases e with
  | wait _ | refuse _ => exact h
  | place => exact ⟨h.shown, h.listed, h.lit, h.waiting, h.candidate, h.precedence⟩
  | expire hp _ =>
    refine coherent_commit h.listed ?_
    rw [h.candidate _ hp]
    exact Directory.resolve_committed_resolve
  | install _ => exact coherent_commit lists_renewing Directory.resolve_committed_resolve
  | arrive => exact coherent_commit h.listed Directory.resolve_committed_resolve
  | depart => exact h.depart _ _
  | grant hr => exact h.grant hr

lemma Coherent.after (h : Coherent a) (call : Call) : Coherent (a.after call) :=
  h.effect (effect_after a call)

lemma Coherent.run (h : Coherent a) (calls : List Call) : Coherent (a.run calls) :=
  run_invariant calls h fun _ call hb => hb.after call

/-- Every history of a new arbiter leads to a coherent one. -/
theorem coherent_run (config : Config) (calls : List Call) :
    Coherent ((new config).run calls) :=
  (coherent_new config).run calls

/-- While nothing waits, the owner is present. -/
lemma Coherent.mem_present_of_idle (h : Coherent a) (hidle : a.window.pending = none)
    (hw : a.winner = some w) : w ∈ a.directory.present a.occupancy := by
  have hsuccessor : a.winner = a.successor := congrArg Scene.winner (h.waiting.mp hidle)
  exact Directory.mem_present.mpr (Directory.mem_of_resolve (hsuccessor.symm.trans hw))

/-! ### The owner after a call -/

lemma Coherent.winner_expire (h : Coherent a) {deferral : Deferral}
    (hp : a.window.pending = some deferral) :
    (a.releasing.commit deferral.candidate).1.winner = a.successor := by
  rw [h.candidate _ hp]
  exact winner_commit (a := a.releasing) h.listed lists_successor

lemma winner_install {c : Continuity} :
    ((a.renewing d).commit (d.resolve a.occupancy c)).1.winner = d.resolve a.occupancy c :=
  winner_commit lists_renewing Directory.lists_resolve

lemma Coherent.winner_arrive (h : Coherent a) (sensorId : String) :
    ((a.noting sensorId true).commit (a.noting sensorId true).successor).1.winner =
      (a.noting sensorId true).successor :=
  winner_commit (a := a.noting sensorId true) h.listed lists_successor

lemma winner_depart {sensorId : String} {now : Time} :
    ((a.noting sensorId false).postpone candidate now).winner = a.winner := by
  rw [postpone_window]
  rfl

lemma Coherent.winner_grant (h : Coherent a) {userId : String} (hr : a.claimant userId = .ok r) :
    ((a.noting r.sensorId true).commit (some r)).1.winner = some r := by
  refine winner_commit (a := a.noting r.sensorId true) h.listed ?_
  intro s hs
  cases hs
  exact (claimant_spec hr).1

/-- Resolution lets no user of the third tier own the light but the one who owns it. -/
lemma winner_of_successor (hw : a.directory.Lists a.winner) (hr : a.successor = some r)
    (htier : r.tier = .user3) : a.winner = some r := by
  have heligible := Directory.eligible_iff.mp (Directory.resolve_least hr).1
  have hid := Continuity.allows_committed.mp (heligible.2.2 htier)
  obtain ⟨w, hw', hid⟩ := Option.map_eq_some_iff.mp hid
  rw [hw', Directory.eq_of_userId_eq (hw w hw') heligible.1 hid]

end Arbiter

end LightArbiter
