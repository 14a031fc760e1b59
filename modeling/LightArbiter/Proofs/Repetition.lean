import LightArbiter.Proofs.Granting
import LightArbiter.Proofs.Renewal
import LightArbiter.Proofs.Simultaneity
import LightArbiter.Proofs.Waking

/-!
# The same call once more

A call that is made twice in a row does no more than it did at first. What it has led to is what it
leads to again, also later, except that a departure made again later starts its window again. Nothing
is written by the second call but the group of an owner under a new directory, which has been written
before.
-/

namespace LightArbiter

/-- The second call is the first one once more, at the same time or, unless it is a tick or a
departure, at any time. -/
inductive Call.Again : Call → Call → Prop where
  | same (call : Call) : Again call call
  | later {now later : Time} {command : Command}
      (steady : ∀ sensorId, command ≠ .sensorOccupied sensorId false) :
      Again (.handle now command) (.handle later command)

/-- A reading that is there already changes nothing. -/
lemma Occupancy.set_eq_self {o : Occupancy} {sensorId : String} {occupied : Bool}
    (h : o.reading? sensorId = some occupied) : o.set sensorId occupied = o := by
  apply eq_of_reading?
  intro other
  rw [reading?_set]
  split_ifs with hsame
  · exact hsame ▸ h.symm
  · rfl

lemma Occupancy.reading?_of_isOccupied {o : Occupancy} {sensorId : String}
    (h : o.isOccupied sensorId = true) : o.reading? sensorId = some true := by
  rw [isOccupied] at h
  cases hreading : o.reading? sensorId with
  | none => simp [hreading] at h
  | some occupied => simpa [hreading] using h

namespace Arbiter

variable {config : Config} {a : Arbiter} {now later : Time} {call again : Call} {r : UserRecord}

/-! ### While nothing waits -/

lemma noting_eq_self {sensorId : String} {occupied : Bool}
    (h : a.occupancy.reading? sensorId = some occupied) : a.noting sensorId occupied = a := by
  rw [noting, Occupancy.set_eq_self h]

lemma Coherent.shown_of_idle (h : Coherent a) (hidle : a.window.pending = none) :
    a.display.shown = some (a.scene a.winner) := by
  rw [h.shown, committed, scene, h.present_eq hidle]

/-- Nothing comes of giving the light to its owner. -/
lemma Coherent.commit_winner (h : Coherent a) (hidle : a.window.pending = none) :
    a.commit a.winner = (a, none) := by
  have hshown := h.shown_of_idle hidle
  have hwindow : a.window = Window.clear := congrArg Window.mk hidle
  refine Prod.ext ?_ ?_
  · rw [commit_eq h.listed h.listed, ← hshown, ← hwindow]
  · rw [group_commit h.listed h.listed, if_pos hshown]

/-- Nothing comes of an arrival that has been noted. -/
lemma Coherent.answer_arrival_of_noted (h : Coherent a) (hidle : a.window.pending = none)
    {sensorId : String} (hreading : a.occupancy.reading? sensorId = some true) :
    a.answer (.handle now (.sensorOccupied sensorId true)) = (a, .ok none) := by
  have hsuccessor : a.successor = a.winner := (congrArg Scene.winner (h.waiting.mp hidle)).symm
  rw [answer_arrival, noting_eq_self hreading, hsuccessor, h.commit_winner hidle]

/-- Nothing comes of a claim of the owner. -/
lemma Coherent.answer_claim_of_winner (h : Coherent a) (hidle : a.window.pending = none)
    (hr : a.winner = some r) (htier : r.tier = .user3) :
    a.answer (.handle now (.claim r.userId)) = (a, .ok none) := by
  have hclaimant : a.claimant r.userId = .ok r := by
    refine claimant_eq_ok_iff.mpr ⟨Directory.user?_of_mem (h.listed r hr), htier, ?_⟩
    refine incumbentObjection_eq_none_iff.mpr fun w hw => ?_
    cases hr.symm.trans hw
    exact ⟨htier, fun hne => absurd rfl hne⟩
  have hpresent := Directory.mem_present.mp (h.mem_present_of_idle hidle hr)
  have hreading := Occupancy.reading?_of_isOccupied hpresent.2
  simp only [answer_claim, hclaimant, noting_eq_self hreading]
  rw [← hr, h.commit_winner hidle]

/-- Nothing comes of the directory that is in use, but that the group of the owner is written. -/
lemma Coherent.install_directory (h : Coherent a) (hidle : a.window.pending = none) :
    a.install a.directory = (a, if a.winner.isSome then
      some (a.committed.directives a.display.palette) else none) := by
  have hsuccessor : a.successor = a.winner := (congrArg Scene.winner (h.waiting.mp hidle)).symm
  have hstable : a.directory.resolve a.occupancy { retained := a.retained } = a.winner := by
    have hretained := Directory.resolve_retained_resolve (d := a.directory) (o := a.occupancy)
      (c := { committed := a.winner.map UserRecord.userId })
    rwa [show a.directory.resolve _ _ = a.winner from hsuccessor] at hretained
  have hwindow : a.window = Window.clear := congrArg Window.mk hidle
  have hfirst : (a.install a.directory).1 = a :=
    calc (a.install a.directory).1
      _ = ((a.renewing a.directory).commit a.winner).1 :=
        congrArg (fun candidate => ((a.renewing a.directory).commit candidate).1) hstable
      _ = { a with
            display := ⟨(a.renewing a.directory).display.palette, some (a.scene a.winner)⟩
            window := Window.clear } := commit_eq lists_renewing h.listed
      _ = a := by rw [palette_renewing, ← h.shown_of_idle hidle, ← hwindow]
  refine Prod.ext hfirst ?_
  rw [h.group_install, hfirst]
  simp

/-! ### Each call once more -/

/-- What comes of the same call once more: it is refused again, or it is ignored, or it is a new
directory that writes the group of the owner again. -/
inductive Echoes (a : Arbiter) (call again : Call) : Prop where
  | refused {refusal : Refusal} (first : (a.answer call).2 = .error refusal)
      (second : (a.after call).answer again = (a.after call, .error refusal)) : Echoes a call again
  | ignored (first : a.Accepts call)
      (second : (a.after call).answer again = (a.after call, .ok none))
      (other : ∀ now records, again ≠ .handle now (.ownership records)) : Echoes a call again
  | renewed {now : Time} {records : List UserRecord} {group : Option Group}
      (ownership : again = .handle now (.ownership records))
      (first : (a.answer call).2 = .ok group)
      (same : (a.after call).winner.isSome →
        group = some ((a.after call).committed.directives a.display.palette))
      (second : (a.after call).answer again = (a.after call,
        .ok (if (a.after call).winner.isSome then
          some ((a.after call).committed.directives a.display.palette) else none))) :
      Echoes a call again

lemma Echoes.after_eq (h : a.Echoes call again) : (a.after call).after again = a.after call := by
  cases h with
  | refused _ hsecond | ignored _ hsecond _ | renewed _ _ _ hsecond =>
    rw [Arbiter.after, hsecond]

lemma Echoes.accepts_iff (h : a.Echoes call again) :
    (a.after call).Accepts again ↔ a.Accepts call := by
  cases h with
  | refused hfirst hsecond => simp [Accepts, hfirst, hsecond]
  | ignored hfirst hsecond _ => exact iff_of_true ⟨none, by rw [hsecond]⟩ hfirst
  | renewed _ hfirst _ hsecond => exact iff_of_true ⟨_, by rw [hsecond]⟩ ⟨_, hfirst⟩

lemma Coherent.echoes_ownership (h : Coherent a) (records : List UserRecord) :
    a.Echoes (.handle now (.ownership records)) (.handle later (.ownership records)) := by
  have hafter := h.after (.handle now (.ownership records))
  cases hd : Directory.ofRecords records with
  | error error => exact .refused (by rw [answer_ownership, hd]) (by rw [answer_ownership, hd])
  | ok d =>
    have hfirst : a.after (.handle now (.ownership records)) = (a.install d).1 := by
      rw [Arbiter.after, answer_ownership, hd]
    have hpalette : (a.install d).1.display.palette = a.display.palette :=
      palette_commit.trans palette_renewing
    have hinstall : (a.install d).1.install d = _ := (hfirst ▸ hafter).install_directory rfl
    have hanswer : (a.answer (.handle now (.ownership records))).2 = .ok (a.install d).2 := by
      rw [answer_ownership, hd]
    refine .renewed rfl hanswer (fun howned => ?_) ?_
    · -- If the light shows the same as before then it has had an owner before, too.
      have hwrites : a.winner.isSome ∨ (a.install d).1.committed ≠ a.committed := by
        by_cases hsame : (a.install d).1.committed = a.committed
        · have hwinner : (a.install d).1.winner = a.winner := congrArg Scene.winner hsame
          rw [hfirst, hwinner] at howned
          exact .inl howned
        · exact .inr hsame
      rw [hfirst, h.group_install, if_pos hwrites]
    · rw [answer_ownership, hd, hfirst, ← hpalette]
      simp only [hinstall]

lemma Coherent.echoes_arrival (h : Coherent a) (sensorId : String) :
    a.Echoes (.handle now (.sensorOccupied sensorId true))
      (.handle later (.sensorOccupied sensorId true)) := by
  have hafter := h.after (.handle now (.sensorOccupied sensorId true))
  have hreading : (a.occupancy.set sensorId true).reading? sensorId = some true := by
    rw [Occupancy.reading?_set, if_pos rfl]
  exact .ignored ⟨_, rfl⟩ (hafter.answer_arrival_of_noted rfl hreading) (by simp)

lemma echoes_departure (sensorId : String) :
    a.Echoes (.handle now (.sensorOccupied sensorId false))
      (.handle now (.sensorOccupied sensorId false)) := by
  have hreading : (a.occupancy.set sensorId false).reading? sensorId = some false := by
    rw [Occupancy.reading?_set, if_pos rfl]
  have hsecond : (a.vacating now (a.occupancy.set sensorId false)).after
      (.handle now (.sensorOccupied sensorId false)) = _ := after_departure_vacating sensorId
  rw [Occupancy.set_eq_self hreading] at hsecond
  exact .ignored ⟨_, rfl⟩ (Prod.ext hsecond rfl) (by simp)

lemma Coherent.echoes_claim (h : Coherent a) (userId : String) :
    a.Echoes (.handle now (.claim userId)) (.handle later (.claim userId)) := by
  have hafter := h.after (.handle now (.claim userId))
  cases hr : a.claimant userId with
  | error reason =>
    have hfirst : a.after (.handle now (.claim userId)) = a := by
      rw [Arbiter.after, answer_claim, hr]
    refine .refused (by rw [answer_claim, hr]) ?_
    rw [hfirst, answer_claim, hr]
  | ok r =>
    obtain ⟨-, rfl, htier, -⟩ := claimant_spec hr
    have hfirst : a.after (.handle now (.claim r.userId)) =
        ((a.noting r.sensorId true).commit (some r)).1 := by
      rw [Arbiter.after, answer_claim, hr]
    rw [hfirst] at hafter
    refine .ignored ⟨_, by rw [answer_claim, hr]⟩ ?_ (by simp)
    rw [hfirst]
    exact hafter.answer_claim_of_winner rfl (h.winner_grant hr) htier

lemma Coherent.echoes (h : Coherent a) (hagain : Call.Again call again) : a.Echoes call again := by
  cases call with
  | tick now =>
    cases hagain
    have hquiet : (a.after (.tick now)).Quiet now := quiet_tick
    refine .ignored ⟨_, rfl⟩ ?_ (by simp)
    rw [answer, tick_of_early hquiet]
  | handle now command =>
    obtain ⟨later, rfl, hsteady⟩ : ∃ later, again = .handle later command ∧
        ∀ sensorId, command = .sensorOccupied sensorId false → later = now := by
      cases hagain with
      | same => exact ⟨now, rfl, fun _ _ => rfl⟩
      | later hsteady => exact ⟨_, rfl, fun sensorId h => absurd h (hsteady sensorId)⟩
    cases command with
    | location position => exact .ignored ⟨_, rfl⟩ rfl (by simp)
    | ownership records => exact h.echoes_ownership records
    | sensorOccupied sensorId occupied =>
      cases occupied with
      | true => exact h.echoes_arrival sensorId
      | false =>
        rw [hsteady sensorId rfl]
        exact echoes_departure sensorId
    | claim userId => exact h.echoes_claim userId

/--
After every history, a call that is made once more leaves the arbiter as the first one has left it,
with what waits and until when, and is refused only if the first one was. Nothing is written by it,
unless it is a new directory that is accepted and finds an owner; then the same group is written that
the first one has written, which describes what the light shows.
-/
theorem answer_again (config : Config) (calls : List Call) {call again : Call}
    (hagain : Call.Again call again) :
    let a := (new config).run calls
    let b := a.after call
    b.after again = b ∧ (b.Accepts again ↔ a.Accepts call) ∧
      (¬b.Renews again → written (b.answer again).2 = []) ∧
      (b.Renews again →
        written (b.answer again).2 = [b.committed.directives config.palette] ∧
          written (a.answer call).2 = written (b.answer again).2) := by
  intro a b
  have h : Coherent a := coherent_run config calls
  have hpalette : a.display.palette = config.palette := palette_run config calls
  have hechoes : a.Echoes call again := h.echoes hagain
  refine ⟨hechoes.after_eq, hechoes.accepts_iff, ?_, ?_⟩
  · intro hrenews
    cases hechoes with
    | refused _ hsecond | ignored _ hsecond _ =>
      rw [hsecond]
      rfl
    | renewed hownership _ _ hsecond =>
      have haccepts : b.Accepts again := ⟨_, by rw [hsecond]⟩
      have hfree : ¬b.winner.isSome := fun howned =>
        hrenews ⟨howned, haccepts, _, _, hownership⟩
      rw [hsecond, if_neg hfree]
      rfl
  · rintro ⟨howned, haccepts, now, records, hagain⟩
    cases hechoes with
    | refused _ hsecond =>
      obtain ⟨group, hgroup⟩ := haccepts
      rw [hsecond] at hgroup
      cases hgroup
    | ignored _ _ hother => exact absurd hagain (hother now records)
    | renewed _ hfirst hsame hsecond =>
      rw [hsecond, hfirst, if_pos howned, hsame howned, hpalette]
      exact ⟨rfl, rfl⟩

/-- The first departure of the owner starts a window, and the second one at the same time leaves it as
it is. The new directory that follows writes the group of the owner, at first and once more. -/
theorem answer_again_departure_and_renewal :
    let alice := UserRecord.plain "alice" .user1
    let calls : List Call :=
      [.handle 0 (.ownership [alice]), .handle 0 (.sensorOccupied alice.sensorId true)]
    let departure := Call.handle 1000 (.sensorOccupied alice.sensorId false)
    let renewal := Call.handle 500 (.ownership [alice])
    let later := Call.handle 9000 (.ownership [alice])
    let a := (new {}).run calls
    Call.Again departure departure ∧ Call.Again renewal later ∧
      (a.after departure).deadline = some 4000 ∧
      (a.after departure).after departure = a.after departure ∧
      (a.after renewal).after later = a.after renewal ∧
      written ((a.after renewal).answer later).2 = written (a.answer renewal).2 ∧
      written (a.answer renewal).2 ≠ [] := by
  intro alice calls departure renewal later a
  have hdeparture : Call.Again departure departure := .same departure
  have hrenewal : Call.Again renewal later := .later (by simp)
  obtain ⟨hsame, -, -, -⟩ := answer_again {} calls hdeparture
  obtain ⟨hsame', -, -, hwrites⟩ := answer_again {} calls hrenewal
  have hrenews : (a.after renewal).Renews later :=
    ⟨by decide, ⟨_, rfl⟩, 9000, [alice], rfl⟩
  exact ⟨hdeparture, hrenewal, by decide, hsame, hsame', (hwrites hrenews).2.symm, by decide⟩

end Arbiter

end LightArbiter
