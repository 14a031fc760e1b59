import LightArbiter.Proofs.Coherence
import LightArbiter.Proofs.Journal

/-!
# The output as a mirror of the state

Whoever reads the output knows what the light shows: a call writes nothing and leaves what the light
shows as it is, or it writes the one group that describes what the light shows after it. So the last
group describes the light, and a group is written twice in a row only for a new directory, which may
have changed the record of the owner.
-/

namespace LightArbiter

variable {d : Directory} {palette : Palette}

/-! ### Groups of scenes -/

/-- Does the directive tell whether the light belongs to a user? -/
def Directive.isState : Directive → Bool
  | .state _ => true
  | .color _ => false
  | .lowLight _ => false
  | .userId _ => false
  | .tier _ => false

lemma Scene.countP_isState_directives (palette : Palette) (scene : Scene) :
    (scene.directives palette).countP Directive.isState = 1 := by
  obtain ⟨winner, present⟩ := scene
  cases winner with
  | some w => rfl
  | none => cases present <;> rfl

/-- The group that gives the light to a user. -/
def UserRecord.usedGroup (r : UserRecord) : Group :=
  [.color r.lightColor, .lowLight r.lowLight, .userId r.userId, .state .used, .tier r.tier]

/-- The group that makes the light free while nobody is near. -/
def Palette.freeGroup (palette : Palette) : Group :=
  [.state .free, .color palette.off]

/-- Can the scene be shown while a directory is in use: is its owner listed, and does it show that
somebody is near if it has an owner? -/
structure Scene.Fits (scene : Scene) (d : Directory) : Prop where
  listed : d.Lists scene.winner
  lit : ∀ w, scene.winner = some w → scene.present = true

/-- Scenes of one directory that are described alike are the same, whatever the palette is. -/
lemma Scene.Fits.directives_injective {scene other : Scene} (h : scene.Fits d) (h' : other.Fits d)
    (heq : scene.directives palette = other.directives palette) : scene = other := by
  obtain ⟨winner, present⟩ := scene
  obtain ⟨winner', present'⟩ := other
  cases winner with
  | none =>
    cases winner' with
    | none => cases present <;> cases present' <;> simp_all [Scene.directives]
    | some w' => cases present <;> simp [Scene.directives] at heq
  | some w =>
    cases winner' with
    | none => cases present' <;> simp [Scene.directives] at heq
    | some w' =>
      have hid : w.userId = w'.userId := by
        simp only [Scene.directives, List.cons.injEq, Directive.userId.injEq] at heq
        exact heq.2.2.1
      have hw : w = w' := Directory.eq_of_userId_eq (h.listed w rfl) (h'.listed w' rfl) hid
      rw [hw, show present = true from h.lit w rfl, show present' = true from h'.lit w' rfl]

namespace Arbiter

variable {config : Config} {a b : Arbiter} {candidate : Option UserRecord} {call : Call}
  {calls : List Call} {answer : Except Refusal (Option Group)} {group : Group}

/-! ### What a call writes -/

lemma Coherent.fits (h : Coherent a) : a.committed.Fits a.directory := ⟨h.listed, h.lit⟩

/-- A commit writes the group of the scene that is then shown, unless it was shown before. -/
lemma written_commit (hw : a.directory.Lists a.winner) (hc : a.directory.Lists candidate) :
    a.display.shown = some (a.commit candidate).1.committed ∧
        written (.ok (a.commit candidate).2) = [] ∨
      a.display.shown ≠ some (a.commit candidate).1.committed ∧
        written (.ok (a.commit candidate).2) =
          [(a.commit candidate).1.committed.directives a.display.palette] := by
  rw [committed_of_shown (shown_commit hw hc), group_commit hw hc]
  by_cases hshown : a.display.shown = some (a.scene candidate)
  · rw [if_pos hshown]
    exact .inl ⟨hshown, rfl⟩
  · rw [if_neg hshown]
    exact .inr ⟨hshown, rfl⟩

/-- Is the call a new directory that is accepted and finds an owner? -/
def Renews (a : Arbiter) (call : Call) : Prop :=
  a.winner.isSome ∧ a.Accepts call ∧ ∃ now records, call = .handle now (.ownership records)

/-- What a call that leads from one arbiter to another writes: nothing if the light shows the same
as before, and otherwise the group of what it shows then. -/
inductive Mirrors (a b : Arbiter) (call : Call) (groups : List Group) : Prop where
  | same (quiet : groups = []) (same : b.committed = a.committed) : Mirrors a b call groups
  | changed (writes : groups = [b.committed.directives a.display.palette])
      (changed : b.committed ≠ a.committed) (listed : b.directory.Lists a.winner) :
      Mirrors a b call groups
  | renewed (writes : groups = [b.committed.directives a.display.palette])
      (renews : a.Renews call) : Mirrors a b call groups

/-- A commit mirrors what becomes of a light of which it is known what it shows. -/
lemma mirrors_commit (hcommitted : b.committed = a.committed)
    (hshown : b.display.shown = some b.committed) (hpalette : b.display.palette = a.display.palette)
    (hw : b.directory.Lists b.winner) (hc : b.directory.Lists candidate) :
    Mirrors a (b.commit candidate).1 call (written (.ok (b.commit candidate).2)) := by
  have hwinner : b.winner = a.winner := congrArg Scene.winner hcommitted
  rw [hcommitted] at hshown
  rcases written_commit hw hc with ⟨hsame, hquiet⟩ | ⟨hchanged, hwrites⟩
  · rw [hshown, Option.some.injEq] at hsame
    exact .same hquiet hsame.symm
  · rw [hshown, Ne, Option.some.injEq] at hchanged
    rw [hpalette] at hwrites
    exact .changed hwrites (Ne.symm hchanged) (hwinner ▸ hw)

lemma Coherent.mirrors (h : Coherent a) (call : Call) :
    Mirrors a (a.after call) call (written (a.answer call).2) := by
  have hrenews : ∀ {now records}, call = .handle now (.ownership records) →
      (∃ group, (a.answer call).2 = .ok group) → a.winner.isSome → a.Renews call :=
    fun hcall haccepts howned => ⟨howned, haccepts, _, _, hcall⟩
  have e := effect_after a call
  generalize a.after call = b at e
  generalize (a.answer call).2 = answer at e hrenews
  cases e with
  | wait _ | place | refuse _ => exact .same rfl rfl
  | expire hp _ =>
    rw [h.candidate _ hp]
    exact mirrors_commit (b := a.releasing) rfl h.shown rfl h.listed lists_successor
  | @install now records directory _ =>
    cases howner : a.winner with
    | none =>
      have hsame : a.renewing directory = { a with directory := directory } := by
        simp [renewing, howner]
      rw [hsame]
      refine mirrors_commit rfl h.shown rfl ?_ Directory.lists_resolve
      exact howner ▸ Directory.lists_none
    | some w =>
      have hforgot : (a.renewing directory).display.shown = none := by
        simp [renewing, howner, Display.forget]
      rcases written_commit lists_renewing Directory.lists_resolve with ⟨hshown, -⟩ | ⟨-, hwrites⟩
      · cases hforgot.symm.trans hshown
      · rw [palette_renewing] at hwrites
        exact .renewed hwrites (hrenews rfl ⟨_, rfl⟩ (by simp [howner]))
  | arrive => exact mirrors_commit (b := a.noting _ true) rfl h.shown rfl h.listed lists_successor
  | depart =>
    refine .same rfl ?_
    rw [postpone_window]
    rfl
  | grant hr =>
    refine mirrors_commit (b := a.noting _ true) rfl h.shown rfl h.listed ?_
    intro s hs
    cases hs
    exact (claimant_spec hr).1

/-- Only a new directory that finds an owner writes the group of what was shown before. -/
lemma Coherent.renews_of_written (h : Coherent a)
    (hwritten : written (a.answer call).2 = [a.committed.directives a.display.palette]) :
    a.Renews call := by
  have hafter : Coherent (a.after call) := h.after call
  cases h.mirrors call with
  | same hquiet _ => cases hquiet.symm.trans hwritten
  | changed hwrites hchanged hlisted =>
    rw [hwrites, List.singleton_inj] at hwritten
    exact absurd (hafter.fits.directives_injective ⟨hlisted, h.lit⟩ hwritten) hchanged
  | renewed _ hrenews => exact hrenews

/-! ### What a history writes -/

/-- Every group describes what the light shows after the call that has written it. -/
lemma exists_of_mem_groups (h : group ∈ (new config).groups calls) :
    ∃ earlier call rest, calls = earlier ++ call :: rest ∧
      group = ((new config).run (earlier ++ [call])).committed.directives config.palette := by
  induction calls using List.reverseRecOn with
  | nil => cases h
  | append_singleton calls call ih =>
    rw [groups_append, List.mem_append, groups_cons, groups_nil, List.append_nil] at h
    rcases h with h | h
    · obtain ⟨earlier, call', rest, rfl, hgroup⟩ := ih h
      exact ⟨earlier, call', rest ++ [call], by simp, hgroup⟩
    · refine ⟨calls, call, [], rfl, ?_⟩
      rw [run_append, run_cons, run_nil, ← palette_run config calls]
      cases (coherent_run config calls).mirrors call with
      | same hquiet _ => simp [hquiet] at h
      | changed hwrites _ _ | renewed hwrites _ => simpa [hwrites] using h

/-- The light is dark while nothing is written, and then as the last group describes it. -/
lemma committed_of_getLast? (config : Config) (calls : List Call) :
    match ((new config).groups calls).getLast? with
    | none => ((new config).run calls).committed = Scene.dark
    | some group => group = ((new config).run calls).committed.directives config.palette := by
  induction calls using List.reverseRecOn with
  | nil => rfl
  | append_singleton calls call ih =>
    rw [groups_append, groups_cons, groups_nil, List.append_nil, run_append, run_cons, run_nil]
    have hpalette := palette_run config calls
    cases (coherent_run config calls).mirrors call with
    | same hquiet hsame =>
      rw [hquiet, List.append_nil, hsame]
      exact ih
    | changed hwrites _ _ | renewed hwrites _ =>
      rw [hwrites, List.getLast?_concat, hpalette]

/--
After every history, a call writes nothing and leaves what the light shows as it is, or it writes
one group, which describes what the light shows after the call. Every group has exactly one
directive that tells the state. The last group of a history describes what the light shows after
it, and while nothing is written the light is dark. And only a new directory that is accepted and
finds an owner writes a group that is equal to the one before it.
-/
theorem groups_mirror_committed (config : Config) (calls : List Call) :
    let a := (new config).run calls
    let groups := (new config).groups calls
    (∀ call, written (a.answer call).2 = [] ∧ (a.after call).committed = a.committed ∨
      written (a.answer call).2 = [(a.after call).committed.directives config.palette]) ∧
    (∀ group ∈ groups, group.countP Directive.isState = 1) ∧
    (groups = [] → a.committed = Scene.dark) ∧
    (∀ group, groups.getLast? = some group → group = a.committed.directives config.palette) ∧
    ∀ call group, groups.getLast? = some group → written (a.answer call).2 = [group] →
      a.Renews call := by
  intro a groups
  have h : Coherent a := coherent_run config calls
  have hpalette : a.display.palette = config.palette := palette_run config calls
  have hlast : ∀ group, groups.getLast? = some group →
      group = a.committed.directives config.palette := by
    intro group hgroup
    have hshown := committed_of_getLast? config calls
    rwa [hgroup] at hshown
  refine ⟨fun call => ?_, fun group hgroup => ?_, fun hnone => ?_, hlast, ?_⟩
  · cases h.mirrors call with
    | same hquiet hsame => exact .inl ⟨hquiet, hsame⟩
    | changed hwrites _ _ | renewed hwrites _ => exact .inr (hpalette ▸ hwrites)
  · obtain ⟨_, _, _, -, rfl⟩ := exists_of_mem_groups hgroup
    exact Scene.countP_isState_directives _ _
  · have hshown := committed_of_getLast? config calls
    rwa [show (new config).groups calls = [] from hnone] at hshown
  · intro call group hgroup hwritten
    rw [hlast group hgroup, ← hpalette] at hwritten
    exact h.renews_of_written hwritten

-- The same directory once more writes the owner's group once more.
example :
    let alice := UserRecord.plain "alice" .user1
    let calls := [.handle 0 (.ownership [alice]), .handle 0 (.sensorOccupied alice.sensorId true)]
    let reload := Call.handle 1000 (.ownership [alice])
    ((new {}).groups (calls ++ [reload])).length = 2 ∧
      written (((new {}).run calls).answer reload).2 = (new {}).groups calls := by
  decide

end Arbiter

end LightArbiter
