import LightArbiter.Proofs.Coherence

/-!
# Neutrality towards preferences

Who owns the light, and when, does not depend on how the users like it. To make everything neutral
is to replace the colors and the low light settings of all records by the same ones, and the palette
by the usual one. Every operation commutes with this, although a commit compares whole records: the
records that it compares come from one directory, where the id decides.
-/

namespace LightArbiter

variable {d : Directory} {o : Occupancy} {c : Continuity} {r s : UserRecord}

/-! ### Records and directories without preferences -/

/-- The record without preferences: two records are the same without them exactly if they differ in
nothing else. -/
def UserRecord.neutral (r : UserRecord) : UserRecord :=
  { r with lightColor := Color.off, lowLight := false }

@[simp] lemma UserRecord.userId_neutral (r : UserRecord) : r.neutral.userId = r.userId := rfl

@[simp] lemma UserRecord.tier_neutral (r : UserRecord) : r.neutral.tier = r.tier := rfl

@[simp] lemma UserRecord.sensorId_neutral (r : UserRecord) : r.neutral.sensorId = r.sensorId := rfl

lemma UserRecord.neutral_eq_iff :
    r.neutral = s.neutral ↔ r.userId = s.userId ∧ r.tier = s.tier ∧ r.sensorId = s.sensorId ∧
      r.x = s.x ∧ r.y = s.y := by
  simp [UserRecord.neutral]

section Tables

variable {α : Type} {key : α → String} {f : α → α} {l : List α}

lemma Ascending.map (hkey : ∀ a, key (f a) = key a) (h : Ascending key l) :
    Ascending key (l.map f) := by
  refine List.pairwise_map.mpr (List.Pairwise.imp ?_ h)
  intro a b hlt
  rwa [hkey, hkey]

lemma put_map (hkey : ∀ a, key (f a) = key a) (a : α) :
    put key (f a) (l.map f) = (put key a l).map f := by
  induction l with
  | nil => rfl
  | cons b l ih =>
    simp only [List.map_cons, put, hkey, ih]
    split_ifs <;> rfl

lemma lookup_map (hkey : ∀ a, key (f a) = key a) (k : String) :
    lookup key k (l.map f) = (lookup key k l).map f := by
  simp only [lookup, List.find?_map, Function.comp_def, hkey]

end Tables

namespace Directory

def neutral (d : Directory) : Directory where
  records := d.records.map UserRecord.neutral
  sensors := d.sensors
  ascending := d.ascending.map UserRecord.userId_neutral
  sensors_ascending := d.sensors_ascending
  linked := by
    rw [List.map_map]
    exact d.linked

lemma user?_neutral (userId : String) :
    d.neutral.user? userId = (d.user? userId).map UserRecord.neutral :=
  lookup_map UserRecord.userId_neutral userId

lemma add_neutral : d.neutral.add r.neutral = (d.add r).map neutral := by
  have hids : (∃ s ∈ d.neutral.records, s.userId = r.neutral.userId) ↔
      ∃ s ∈ d.records, s.userId = r.userId := by
    simp [neutral, UserRecord.neutral]
  have hsensors : (∃ l ∈ d.neutral.sensors, l.sensorId = r.neutral.sensorId) ↔
      ∃ l ∈ d.sensors, l.sensorId = r.sensorId := Iff.rfl
  simp only [add, hids, hsensors]
  split_ifs
  · rfl
  · rfl
  · exact congrArg Except.ok (Directory.ext (put_map UserRecord.userId_neutral r))

lemma addAll_neutral (records : List UserRecord) :
    d.neutral.addAll (records.map UserRecord.neutral) = (d.addAll records).map neutral := by
  induction records generalizing d with
  | nil => rfl
  | cons r records ih =>
    rw [List.map_cons, addAll, addAll, add_neutral]
    cases d.add r with
    | error error => rfl
    | ok d' => exact ih

lemma ofRecords_neutral (records : List UserRecord) :
    ofRecords (records.map UserRecord.neutral) = (ofRecords records).map neutral :=
  addAll_neutral (d := empty) records

lemma search_neutral (second third : Option UserRecord) (records : List UserRecord) :
    search o c (second.map UserRecord.neutral) (third.map UserRecord.neutral)
        (records.map UserRecord.neutral) =
      (search o c second third records).map UserRecord.neutral := by
  induction records generalizing second third with
  | nil => cases second <;> rfl
  | cons r records ih =>
    simp only [List.map_cons, search, UserRecord.sensorId_neutral, UserRecord.tier_neutral,
      UserRecord.userId_neutral, Option.isNone_map]
    split
    · cases r.tier with
      | user1 => rfl
      | user2 =>
        cases second with
        | none => exact ih (some r) third
        | some s => exact ih (some s) third
      | user3 =>
        dsimp only
        split
        · exact ih second (some r)
        · exact ih second third
    · exact ih second third

lemma resolve_neutral : d.neutral.resolve o c = (d.resolve o c).map UserRecord.neutral :=
  search_neutral none none d.records

lemma Lists.neutral {owner : Option UserRecord} (h : d.Lists owner) :
    d.neutral.Lists (owner.map UserRecord.neutral) := by
  intro r hr
  obtain ⟨s, hs, rfl⟩ := Option.map_eq_some_iff.mp hr
  exact List.mem_map_of_mem (h s hs)

/-- Listed owners are the same if they are the same without preferences. -/
lemma Lists.neutral_injective {owner other : Option UserRecord} (h : d.Lists owner)
    (h' : d.Lists other) (heq : owner.map UserRecord.neutral = other.map UserRecord.neutral) :
    owner = other := by
  apply h.eq_of_userId h'
  have hid := congrArg (Option.map UserRecord.userId) heq
  rwa [Option.map_map, Option.map_map] at hid

end Directory

/-! ### Scenes and groups without preferences -/

/-- The directive without the preference that it tells. -/
def Directive.neutral : Directive → Directive
  | color _ => color Color.off
  | lowLight _ => lowLight false
  | userId id => userId id
  | state s => state s
  | tier t => tier t

/-- The answer without preferences. -/
def outline (answer : Except Refusal (Option Group)) : Except Refusal (Option Group) :=
  answer.map fun group => group.map fun directives => directives.map Directive.neutral

def Scene.neutral (scene : Scene) : Scene :=
  { scene with winner := scene.winner.map UserRecord.neutral }

lemma Scene.directives_neutral (palette palette' : Palette) (scene : Scene) :
    (scene.neutral.directives palette').map Directive.neutral =
      (scene.directives palette).map Directive.neutral := by
  obtain ⟨winner, present⟩ := scene
  cases winner with
  | some w => rfl
  | none => cases present <;> rfl

/-! ### Arbiters and calls without preferences -/

def Display.neutral (display : Display) : Display where
  palette := {}
  shown := display.shown.map Scene.neutral

def Window.neutral (window : Window) : Window where
  pending := window.pending.map fun deferral =>
    { deferral with candidate := deferral.candidate.map UserRecord.neutral }

def Config.neutral (config : Config) : Config := { config with palette := {} }

def Command.neutral : Command → Command
  | location position => location position
  | ownership records => ownership (records.map UserRecord.neutral)
  | sensorOccupied sensorId occupied => sensorOccupied sensorId occupied
  | claim userId => claim userId

def Call.neutral : Call → Call
  | tick now => tick now
  | handle now command => handle now command.neutral

namespace Arbiter

variable {a : Arbiter} {candidate : Option UserRecord} {now : Time} {call : Call}

/-- The arbiter without preferences. -/
def neutral (a : Arbiter) : Arbiter where
  config := a.config.neutral
  light := a.light
  directory := a.directory.neutral
  occupancy := a.occupancy
  display := a.display.neutral
  window := a.window.neutral

lemma winner_neutral : a.neutral.winner = a.winner.map UserRecord.neutral := by
  show (a.display.shown.map Scene.neutral).bind Scene.winner =
    (a.display.shown.bind Scene.winner).map UserRecord.neutral
  cases a.display.shown <;> rfl

lemma present_neutral : a.neutral.present = a.present := by
  show ((a.display.shown.map Scene.neutral).map Scene.present).getD false =
    (a.display.shown.map Scene.present).getD false
  cases a.display.shown <;> rfl

lemma ownerId_neutral :
    a.neutral.winner.map UserRecord.userId = a.winner.map UserRecord.userId := by
  rw [winner_neutral, Option.map_map]
  rfl

lemma deadline_neutral : a.neutral.deadline = a.deadline := by
  show (a.window.pending.map _).map _ = a.window.pending.map _
  rw [Option.map_map]
  rfl

/-- The id of the user who gets the light when the waiting outcome falls due, if one waits. -/
def waitingId (a : Arbiter) : Option (Option String) :=
  a.window.pending.map fun deferral => deferral.candidate.map UserRecord.userId

lemma waitingId_neutral : a.neutral.waitingId = a.waitingId := by
  show (a.window.pending.map _).map _ = a.window.pending.map _
  rw [Option.map_map]
  congr 1
  funext deferral
  exact Option.map_map _ _ _

lemma successor_neutral : a.neutral.successor = a.successor.map UserRecord.neutral := by
  rw [successor, ownerId_neutral]
  exact Directory.resolve_neutral

lemma shown_neutral_iff (hw : a.directory.Lists a.winner) (hc : a.directory.Lists candidate) :
    a.neutral.display.shown = some (a.neutral.scene (candidate.map UserRecord.neutral)) ↔
      a.display.shown = some (a.scene candidate) := by
  show a.display.shown.map Scene.neutral = some (a.scene candidate).neutral ↔ _
  cases hshown : a.display.shown with
  | none => simp
  | some shown =>
    rw [winner_of_shown hshown] at hw
    rw [Option.map_some, Option.some.injEq, Option.some.injEq]
    constructor
    · intro heq
      -- The owner shown and the candidate are of one directory, where the id decides.
      have hwinner := hw.neutral_injective hc (congrArg Scene.winner heq)
      have hpresent : shown.present = a.occupancy.anyPresent := congrArg Scene.present heq
      obtain ⟨winner, present⟩ := shown
      rw [scene, ← hwinner, ← hpresent]
    · intro heq
      rw [heq]

lemma quiet_neutral : a.neutral.Quiet now ↔ a.Quiet now := by
  simp [Quiet, neutral, Window.neutral]

lemma renewing_neutral : (a.renewing d).neutral = a.neutral.renewing d.neutral := by
  simp only [renewing, winner_neutral, Option.isSome_map]
  split_ifs <;> rfl

lemma retained_neutral : a.neutral.retained = a.retained := by
  rw [retained, retained, winner_neutral]
  cases a.winner with
  | none => rfl
  | some w => by_cases htier : w.tier = .user3 <;> simp [Option.filter, htier]

lemma incumbentObjection_neutral :
    a.neutral.incumbentObjection r.neutral = a.incumbentObjection r := by
  rw [incumbentObjection, incumbentObjection, winner_neutral]
  cases a.winner <;> rfl

lemma claimant_neutral (userId : String) :
    a.neutral.claimant userId = (a.claimant userId).map UserRecord.neutral := by
  have huser : a.neutral.directory.user? userId =
      (a.directory.user? userId).map UserRecord.neutral := Directory.user?_neutral userId
  rw [claimant, claimant, huser]
  cases a.directory.user? userId with
  | none => rfl
  | some r =>
    by_cases htier : r.tier = .user3
    · cases hobjection : a.incumbentObjection r <;>
        simp [htier, incumbentObjection_neutral, hobjection, Except.map]
    · simp [htier, Except.map]

/-! ### Operations -/

/-- Is the first result the second one without preferences? -/
structure Agrees (result result' : Arbiter × Except Refusal (Option Group)) : Prop where
  state : result.1 = result'.1.neutral
  answer : outline result.2 = outline result'.2

/-- The result of an operation that is not refused. -/
def accepted (result : Arbiter × Option Group) : Arbiter × Except Refusal (Option Group) :=
  (result.1, .ok result.2)

lemma agrees_commit (hw : a.directory.Lists a.winner) (hc : a.directory.Lists candidate) :
    Agrees (accepted (a.neutral.commit (candidate.map UserRecord.neutral)))
      (accepted (a.commit candidate)) := by
  have hw' : a.neutral.directory.Lists a.neutral.winner := winner_neutral ▸ hw.neutral
  have hc' : a.neutral.directory.Lists (candidate.map UserRecord.neutral) := hc.neutral
  constructor
  · show (a.neutral.commit _).1 = (a.commit _).1.neutral
    rw [commit_eq hw hc, commit_eq hw' hc']
    rfl
  · show outline (.ok (a.neutral.commit _).2) = outline (.ok (a.commit _).2)
    rw [group_commit hw hc, group_commit hw' hc']
    by_cases hshown : a.display.shown = some (a.scene candidate)
    · rw [if_pos hshown, if_pos ((shown_neutral_iff hw hc).mpr hshown)]
    · rw [if_neg hshown, if_neg fun h => hshown ((shown_neutral_iff hw hc).mp h)]
      have hgroup := Scene.directives_neutral a.display.palette {} (a.scene candidate)
      exact congrArg (Except.ok ∘ some) hgroup

lemma postpone_neutral (now : Time) (hw : a.directory.Lists a.winner)
    (hc : a.directory.Lists candidate) :
    a.neutral.postpone (candidate.map UserRecord.neutral) now =
      (a.postpone candidate now).neutral := by
  have hw' : a.neutral.directory.Lists a.neutral.winner := winner_neutral ▸ hw.neutral
  rw [postpone_eq hw hc, postpone_eq hw' hc.neutral]
  by_cases hshown : a.display.shown = some (a.scene candidate)
  · rw [if_pos hshown, if_pos ((shown_neutral_iff hw hc).mpr hshown)]
    rfl
  · rw [if_neg hshown, if_neg fun h => hshown ((shown_neutral_iff hw hc).mp h)]
    rfl

lemma Coherent.agrees_tick (h : Coherent a) (now : Time) :
    Agrees (accepted (a.neutral.tick now)) (accepted (a.tick now)) := by
  by_cases hquiet : a.Quiet now
  · rw [tick_of_early hquiet, tick_of_early (quiet_neutral.mpr hquiet)]
    exact ⟨rfl, rfl⟩
  · obtain ⟨deferral, hp, hdue⟩ := not_quiet.mp hquiet
    have hp' : a.neutral.window.pending =
        some { deferral with candidate := deferral.candidate.map UserRecord.neutral } := by
      simp [neutral, Window.neutral, hp]
    have hc : a.directory.Lists deferral.candidate := h.candidate _ hp ▸ lists_successor
    rw [tick_of_due hp hdue, tick_of_due hp' hdue]
    exact agrees_commit (a := a.releasing) h.listed hc

lemma agrees_reload (records : List UserRecord) :
    Agrees (a.neutral.reload (records.map UserRecord.neutral)) (a.reload records) := by
  rw [reload, reload, Directory.ofRecords_neutral]
  cases Directory.ofRecords records with
  | error error => exact ⟨rfl, rfl⟩
  | ok d =>
    have hinstall : a.neutral.install d.neutral = (a.renewing d).neutral.commit
        ((d.resolve a.occupancy { retained := a.retained }).map UserRecord.neutral) := by
      rw [renewing_neutral, ← Directory.resolve_neutral, ← retained_neutral]
      rfl
    show Agrees (accepted (a.neutral.install d.neutral)) (accepted (a.install d))
    rw [hinstall]
    exact agrees_commit (a := a.renewing d) lists_renewing Directory.lists_resolve

lemma Coherent.agrees_claim (h : Coherent a) (userId : String) :
    Agrees (a.neutral.claim userId) (a.claim userId) := by
  rw [claim, claim, claimant_neutral]
  cases hr : a.claimant userId with
  | error reason => exact ⟨rfl, rfl⟩
  | ok r =>
    have hc : a.directory.Lists (some r) := by
      intro s hs
      cases hs
      exact (claimant_spec hr).1
    exact agrees_commit (a := a.noting r.sensorId true) h.listed hc

/-- The arbiter answers a call in the same way without preferences. -/
lemma Coherent.agrees (h : Coherent a) (call : Call) :
    Agrees (a.neutral.answer call.neutral) (a.answer call) := by
  cases call with
  | tick now => exact h.agrees_tick now
  | handle now command =>
    cases command with
    | location position => exact ⟨rfl, rfl⟩
    | ownership records => exact agrees_reload records
    | claim userId => exact h.agrees_claim userId
    | sensorOccupied sensorId occupied =>
      cases occupied with
      | true =>
        have hagrees := agrees_commit (a := a.noting sensorId true) h.listed lists_successor
        rw [← successor_neutral] at hagrees
        exact hagrees
      | false =>
        have hpostpone := postpone_neutral (a := a.noting sensorId false) now h.listed
          lists_successor
        rw [← successor_neutral] at hpostpone
        exact ⟨hpostpone, rfl⟩

lemma Coherent.run_neutral (h : Coherent a) (calls : List Call) :
    a.neutral.run (calls.map Call.neutral) = (a.run calls).neutral := by
  induction calls generalizing a with
  | nil => rfl
  | cons call calls ih =>
    have hafter : a.neutral.after call.neutral = (a.after call).neutral := (h.agrees call).state
    rw [List.map_cons, run_cons, run_cons, hafter, ih (h.after call)]

/-- Arbiters whose settings and calls differ in preferences only are the same without them. -/
lemma neutral_run_congr {config config' : Config} {calls calls' : List Call}
    (hdebounce : config.debounce = config'.debounce)
    (hcalls : calls.map Call.neutral = calls'.map Call.neutral) :
    ((new config).run calls).neutral = ((new config').run calls').neutral := by
  have hnew : (new config).neutral = (new config').neutral := by
    show new config.neutral = new config'.neutral
    rw [Config.neutral, Config.neutral, hdebounce]
  rw [← (coherent_new config).run_neutral, ← (coherent_new config').run_neutral, hnew, hcalls]

/--
Let two arbiters wait equally long for departures, and let their calls be the same without
preferences. Then after every history the owners have the same id, the same presence is shown, an
outcome for the same user waits until the same time, and the occupancy is the same; and to one more
such call both answer with the same refusal, or both write nothing, or both write groups that are
the same without preferences.
-/
theorem outline_answer_congr (config config' : Config) (calls calls' : List Call)
    (call call' : Call) (hdebounce : config.debounce = config'.debounce)
    (hcalls : calls.map Call.neutral = calls'.map Call.neutral)
    (hcall : call.neutral = call'.neutral) :
    let a := (new config).run calls
    let a' := (new config').run calls'
    a.winner.map UserRecord.userId = a'.winner.map UserRecord.userId ∧ a.present = a'.present ∧
      a.deadline = a'.deadline ∧ a.waitingId = a'.waitingId ∧ a.occupancy = a'.occupancy ∧
      outline (a.answer call).2 = outline (a'.answer call').2 := by
  intro a a'
  have hneutral : a.neutral = a'.neutral := neutral_run_congr hdebounce hcalls
  have hoccupancy : a.neutral.occupancy = a'.neutral.occupancy := congrArg occupancy hneutral
  refine ⟨?_, ?_, ?_, ?_, hoccupancy, ?_⟩
  · rw [← ownerId_neutral, hneutral, ownerId_neutral]
  · rw [← present_neutral, hneutral, present_neutral]
  · rw [← deadline_neutral, hneutral, deadline_neutral]
  · rw [← waitingId_neutral, hneutral, waitingId_neutral]
  · have h : Coherent a := coherent_run config calls
    have h' : Coherent a' := coherent_run config' calls'
    rw [← (h.agrees call).answer, ← (h'.agrees call').answer, hneutral, hcall]

/-- A user who changes the color with every new directory, under another palette, leaves as late as
one who keeps to a color. A directory that comes before the end of the window frees the light in both
cases, with groups that differ in the color alone. -/
theorem outline_answer_congr_repainted :
    let alice := UserRecord.plain "alice" .user1
    let painted (c : Color) := { alice with lightColor := c, lowLight := true }
    let calls (first second : UserRecord) : List Call := [.handle 0 (.ownership [first]),
      .handle 0 (.sensorOccupied alice.sensorId true), .handle 500 (.ownership [second]),
      .handle 1000 (.sensorOccupied alice.sensorId false)]
    let reload (third : UserRecord) : Call := .handle 2000 (.ownership [third])
    let config : Config := { palette := ⟨⟨1, 2, 3⟩, ⟨4, 5, 6⟩⟩ }
    let a := (new {}).run (calls alice alice)
    let a' := (new config).run (calls (painted ⟨7, 8, 9⟩) (painted Color.off))
    a.winner ≠ a'.winner ∧ a.winner.map UserRecord.userId = a'.winner.map UserRecord.userId ∧
      a.deadline = some 4000 ∧ a'.deadline = some 4000 ∧
      (a.answer (reload alice)).2 ≠ (a'.answer (reload (painted Color.off))).2 ∧
      outline (a.answer (reload alice)).2 =
        outline (a'.answer (reload (painted Color.off))).2 := by
  intro alice painted calls reload config a a'
  obtain ⟨howner, -, hdeadline, -, -, hanswer⟩ := outline_answer_congr {} config
    (calls alice alice) (calls (painted ⟨7, 8, 9⟩) (painted Color.off))
    (reload alice) (reload (painted Color.off)) rfl rfl rfl
  have hdue : a.deadline = some 4000 := by decide
  exact ⟨by decide, howner, hdue, hdeadline.symm.trans hdue, by decide, hanswer⟩

end Arbiter

end LightArbiter
