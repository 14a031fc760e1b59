import LightArbiter.Proofs.Journal
import LightArbiter.Proofs.Vacancy

/-!
# Readings at the same time

Of several arrivals at one time, or of several departures, it does not matter which comes first: what
the arbiter is then depends only on the sensors that have reported. For arrivals this holds while
nothing waits, since an arrival ends a departure window at once.
-/

namespace LightArbiter

/-! ### Many readings of sensors -/

/-- Lists with ascending keys are the same if every key leads to the same in both. -/
lemma Ascending.eq_of_lookup {α : Type} {key : α → String} {l l' : List α} (h : Ascending key l)
    (h' : Ascending key l') (hlookup : ∀ k, lookup key k l = lookup key k l') : l = l' := by
  have hmem : ∀ a, a ∈ l ↔ a ∈ l' := by
    intro a
    constructor
    · intro ha
      exact (mem_of_lookup ((hlookup (key a)).symm.trans (h.lookup_of_mem ha))).1
    · intro ha
      exact (mem_of_lookup ((hlookup (key a)).trans (h'.lookup_of_mem ha))).1
  have hperm : l.Perm l' :=
    (List.perm_ext_iff_of_nodup h.nodup_map.of_map h'.nodup_map.of_map).mpr hmem
  exact h.eq_of_perm h' hperm

namespace Occupancy

variable {o p : Occupancy} {sensorIds others : List String} {occupied : Bool}

/-- Occupancy is a map from sensors to readings. -/
lemma eq_of_reading? (h : ∀ sensorId, o.reading? sensorId = p.reading? sensorId) : o = p := by
  apply Occupancy.ext
  apply o.ascending.eq_of_lookup p.ascending
  intro sensorId
  have hreading := h sensorId
  simp only [reading?] at hreading
  cases ho : lookup Prod.fst sensorId o.readings <;>
    cases hp : lookup Prod.fst sensorId p.readings <;> simp only [ho, hp] at hreading
  · rfl
  · cases hreading
  · cases hreading
  · rename_i reading reading'
    have hsensor : reading.1 = reading'.1 :=
      (mem_of_lookup ho).2.trans (mem_of_lookup hp).2.symm
    exact congrArg some (Prod.ext hsensor (Option.some.inj hreading))

/-- Occupancy after the same reading of several sensors. -/
def setAll (o : Occupancy) (occupied : Bool) (sensorIds : List String) : Occupancy :=
  sensorIds.foldl (fun o sensorId => o.set sensorId occupied) o

lemma reading?_setAll (sensorId : String) :
    (o.setAll occupied sensorIds).reading? sensorId =
      if sensorId ∈ sensorIds then some occupied else o.reading? sensorId := by
  induction sensorIds generalizing o with
  | nil => rfl
  | cons first sensorIds ih =>
    rw [setAll, List.foldl_cons, ← setAll, ih, reading?_set]
    by_cases hmem : sensorId ∈ sensorIds
    · simp [hmem]
    · by_cases hfirst : first = sensorId
      · simp [hfirst]
      · simp [hmem, hfirst, Ne.symm hfirst]

/-- Neither the order of the sensors counts nor how often one is named. -/
lemma setAll_congr (h : ∀ sensorId, sensorId ∈ sensorIds ↔ sensorId ∈ others) :
    o.setAll occupied sensorIds = o.setAll occupied others := by
  apply eq_of_reading?
  intro sensorId
  simp only [reading?_setAll, h]

lemma isOccupied_setAll_true {sensorId : String} (h : o.isOccupied sensorId = true) :
    (o.setAll true sensorIds).isOccupied sensorId = true := by
  rw [isOccupied, reading?_setAll]
  split_ifs
  · rfl
  · exact h

end Occupancy

lemma Directory.mem_present_setAll_true {d : Directory} {o : Occupancy} {r : UserRecord}
    (h : r ∈ d.present o) (sensorIds : List String) : r ∈ d.present (o.setAll true sensorIds) := by
  rw [Directory.mem_present] at h ⊢
  exact ⟨h.1, Occupancy.isOccupied_setAll_true h.2⟩

/-- The calls by which several sensors report the same at one time. -/
def reports (now : Time) (occupied : Bool) (sensorIds : List String) : List Call :=
  sensorIds.map fun sensorId => .handle now (.sensorOccupied sensorId occupied)

namespace Arbiter

variable {a : Arbiter} {o : Occupancy} {now : Time} {sensorIds others : List String}

/-! ### Arrivals -/

/-- The arbiter when nothing waits and the light shows what certain readings call for. -/
def settling (a : Arbiter) (o : Occupancy) : Arbiter :=
  { a with
    occupancy := o
    display := { a.display with shown := some { a with occupancy := o }.target }
    window := Window.clear }

lemma Coherent.after_arrival (h : Coherent a) (now : Time) (sensorId : String) :
    a.after (.handle now (.sensorOccupied sensorId true)) =
      a.settling (a.occupancy.set sensorId true) :=
  commit_eq (a := a.noting sensorId true) h.listed lists_successor

/-- An arbiter for which nothing waits has settled. -/
lemma Coherent.settling_occupancy (h : Coherent a) (hidle : a.window.pending = none) :
    a.settling a.occupancy = a := by
  have hshown : a.display.shown = some a.target :=
    h.shown.trans (congrArg some (h.waiting.mp hidle))
  have hwindow : a.window = Window.clear := congrArg Window.mk hidle
  calc a.settling a.occupancy
    _ = { a with
          display := { a.display with shown := some a.target }
          window := Window.clear } := rfl
    _ = a := by rw [← hshown, ← hwindow]

/-- When more users have come, it makes no difference that the arbiter has settled in between,
although it has then gone on with another owner. -/
lemma Coherent.settling_settling {o' : Occupancy} (h : Coherent a)
    (hidle : a.window.pending = none)
    (hmore : ∀ r ∈ a.directory.present a.occupancy, r ∈ a.directory.present o)
    (hmore' : ∀ r ∈ a.directory.present o, r ∈ a.directory.present o') :
    (a.settling o).settling o' = a.settling o' := by
  -- Since nothing waits, the owner is present and stays so.
  have howner : ∀ userId, a.winner.map UserRecord.userId = some userId →
      ∃ w ∈ a.directory.present o, w.userId = userId := by
    intro userId hid
    obtain ⟨w, hw, hid⟩ := Option.map_eq_some_iff.mp hid
    exact ⟨w, hmore w (h.mem_present_of_idle hidle hw), hid⟩
  have htarget : { a.settling o with occupancy := o' }.target = { a with occupancy := o' }.target :=
    congrArg (Scene.mk · o'.anyPresent) (Directory.resolve_committed_of_more howner hmore')
  calc (a.settling o).settling o'
    _ = { a with
          occupancy := o'
          display := { a.display with shown := some { a.settling o with occupancy := o' }.target }
          window := Window.clear } := rfl
    _ = a.settling o' := by
      rw [htarget]
      rfl

lemma Coherent.run_arrivals (h : Coherent a) (hidle : a.window.pending = none) :
    a.run (reports now true sensorIds) = a.settling (a.occupancy.setAll true sensorIds) := by
  induction sensorIds generalizing a with
  | nil => exact (h.settling_occupancy hidle).symm
  | cons sensorId sensorIds ih =>
    have hfirst := h.after_arrival now sensorId
    have hcoherent : Coherent (a.settling (a.occupancy.set sensorId true)) :=
      hfirst ▸ h.after _
    calc a.run (reports now true (sensorId :: sensorIds))
      _ = (a.settling (a.occupancy.set sensorId true)).run (reports now true sensorIds) :=
        congrArg (fun b : Arbiter => b.run (reports now true sensorIds)) hfirst
      _ = (a.settling (a.occupancy.set sensorId true)).settling
          ((a.occupancy.set sensorId true).setAll true sensorIds) := ih hcoherent rfl
      _ = a.settling (a.occupancy.setAll true (sensorId :: sensorIds)) :=
        h.settling_settling hidle
          (fun _ hr => Directory.mem_present_setAll_true hr [sensorId])
          (fun _ hr => Directory.mem_present_setAll_true hr sensorIds)

/-! ### Departures -/

/-- The arbiter when a departure at a time has led to certain readings. -/
def vacating (a : Arbiter) (now : Time) (o : Occupancy) : Arbiter :=
  { a with occupancy := o }.postpone { a with occupancy := o }.successor now

/-- What has waited before makes no difference to a departure. -/
lemma after_departure_vacating (sensorId : String) :
    (a.vacating now o).after (.handle now (.sensorOccupied sensorId false)) =
      a.vacating now (o.set sensorId false) := by
  rw [vacating, postpone_window]
  rfl

lemma run_departures_vacating :
    (a.vacating now o).run (reports now false sensorIds) =
      a.vacating now (o.setAll false sensorIds) := by
  induction sensorIds generalizing o with
  | nil => rfl
  | cons sensorId sensorIds ih =>
    calc (a.vacating now o).run (reports now false (sensorId :: sensorIds))
      _ = (a.vacating now (o.set sensorId false)).run (reports now false sensorIds) :=
        congrArg (fun b : Arbiter => b.run (reports now false sensorIds))
          (after_departure_vacating sensorId)
      _ = a.vacating now (o.setAll false (sensorId :: sensorIds)) := ih

lemma run_departures (hne : sensorIds ≠ []) :
    a.run (reports now false sensorIds) =
      a.vacating now (a.occupancy.setAll false sensorIds) := by
  cases sensorIds with
  | nil => exact absurd rfl hne
  | cons sensorId sensorIds => exact run_departures_vacating (o := a.occupancy.set sensorId false)

lemma groups_departures : a.groups (reports now false sensorIds) = [] := by
  induction sensorIds generalizing a with
  | nil => rfl
  | cons sensorId sensorIds ih => exact ih

/--
After every history, the same arbiter is left by arrivals at one time if the same sensors report, in
any order and however often, provided that nothing waits. And the same arbiter is left by departures
at one time, whether something waits or not, and they write nothing.
-/
theorem run_reports_congr (config : Config) (calls : List Call) (now : Time)
    (hsensors : ∀ sensorId, sensorId ∈ sensorIds ↔ sensorId ∈ others) :
    let a := (new config).run calls
    (a.window.pending = none →
        a.run (reports now true sensorIds) = a.run (reports now true others)) ∧
      a.run (reports now false sensorIds) = a.run (reports now false others) ∧
      a.groups (reports now false sensorIds) = [] := by
  intro a
  have h : Coherent a := coherent_run config calls
  refine ⟨fun hidle => ?_, ?_, groups_departures⟩
  · rw [h.run_arrivals hidle, h.run_arrivals hidle, Occupancy.setAll_congr hsensors]
  · by_cases hnil : sensorIds = []
    · have hnil' : others = [] := by simpa [hnil, List.eq_nil_iff_forall_not_mem] using hsensors
      rw [hnil, hnil']
    · have hne : others ≠ [] := by
        obtain ⟨sensorId, hmem⟩ := List.exists_mem_of_ne_nil _ hnil
        exact List.ne_nil_of_mem ((hsensors sensorId).mp hmem)
      rw [run_departures hnil, run_departures hne, Occupancy.setAll_congr hsensors]

/-- A user of the third tier owns the light when two others, and somebody in the hallway, arrive at
one time. Whoever comes first gets the light at first, but in the end it is the one of the first
tier. When they all leave at one time, the same outcome waits. -/
theorem run_reports_congr_gathering :
    let alice := UserRecord.plain "alice" .user1
    let bob := UserRecord.plain "bob" .user2
    let carol := UserRecord.plain "carol" .user3
    let calls : List Call := [.handle 0 (.ownership [alice, bob, carol]), .handle 0 (.claim "carol")]
    let sensorIds := ["hallway", bob.sensorId, alice.sensorId, carol.sensorId]
    let others := [alice.sensorId, carol.sensorId, bob.sensorId, "hallway", bob.sensorId]
    let a := (new {}).run calls
    a.window.pending = none ∧ a.winner = some carol ∧
      (a.run (reports 1000 true (sensorIds.take 2))).winner = some bob ∧
      (a.run (reports 1000 true (others.take 2))).winner = some alice ∧
      a.run (reports 1000 true sensorIds) = a.run (reports 1000 true others) ∧
      a.run (reports 1000 false sensorIds) = a.run (reports 1000 false others) ∧
      (a.run (reports 1000 false sensorIds)).deadline = some 4000 := by
  intro alice bob carol calls sensorIds others a
  have hsensors : ∀ sensorId, sensorId ∈ sensorIds ↔ sensorId ∈ others := by
    intro sensorId
    simp only [sensorIds, others, List.mem_cons, List.not_mem_nil, or_false]
    tauto
  have hidle : a.window.pending = none := by decide
  obtain ⟨harrivals, hdepartures, -⟩ := run_reports_congr {} calls 1000 hsensors
  exact ⟨hidle, by decide, by decide, by decide, harrivals hidle, hdepartures, by decide⟩

end Arbiter

end LightArbiter
