import LightArbiter.Proofs.Journal

/-!
# Waking too often

Nothing depends on how often an arbiter is told the time. A tick more in front of some call either
finds nothing due, or it ends a window that the next tick would have ended; then the next tick finds
nothing, and the arbiter is where it would have been without the tick.
-/

namespace LightArbiter

/-- The second list of calls is the first one with more ticks, none of them after its last call. -/
inductive Wakes : List Call → List Call → Prop where
  | nil : Wakes [] []
  | keep {call : Call} {calls woken : List Call} (rest : Wakes calls woken) :
      Wakes (call :: calls) (call :: woken)
  | wake {now : Time} {call : Call} {calls woken : List Call} (rest : Wakes (call :: calls) woken) :
      Wakes (call :: calls) (.tick now :: woken)

lemma Wakes.sublist {calls woken : List Call} (h : Wakes calls woken) : calls.Sublist woken := by
  induction h with
  | nil => exact List.Sublist.slnil
  | keep _ ih => exact ih.cons_cons _
  | wake _ ih => exact ih.cons _

namespace Arbiter

variable {a : Arbiter} {now later : Time} {call : Call} {calls woken : List Call}

/-! ### Ticks that find nothing due -/

lemma Quiet.mono (h : a.Quiet later) (hle : now ≤ later) : a.Quiet now := by
  intro deferral hp
  exact hle.trans_lt (h deferral hp)

lemma quiet_tick : (a.tick now).1.Quiet now := by
  by_cases hquiet : a.Quiet now
  · rw [tick_of_early hquiet]
    exact hquiet
  · obtain ⟨deferral, hp, hdue⟩ := not_quiet.mp hquiet
    rw [tick_of_due hp hdue]
    intro deferral' hp'
    cases hp'

/-- A tick and a later one do together what the later one does alone. -/
lemma tick_tick (hle : now ≤ later) :
    ((a.tick now).1.tick later).1 = (a.tick later).1 ∧
      (a.tick now).2.toList ++ ((a.tick now).1.tick later).2.toList = (a.tick later).2.toList := by
  by_cases hquiet : a.Quiet now
  · rw [tick_of_early hquiet]
    exact ⟨rfl, rfl⟩
  · obtain ⟨deferral, hp, hdue⟩ := not_quiet.mp hquiet
    -- The first tick takes what waits, and leaves nothing for the second one.
    have hidle : (a.tick now).1.Quiet later := by
      intro deferral' hp'
      rw [tick_of_due hp hdue] at hp'
      cases hp'
    rw [tick_of_early hidle, tick_of_due hp hdue, tick_of_due hp (hdue.trans hle)]
    exact ⟨rfl, List.append_nil _⟩

/-! ### Ticks in front of a call -/

/-- Is every command of the calls preceded by a tick at its own time, the first one perhaps by a tick
that has come before the calls? -/
inductive Ready (a : Arbiter) : List Call → Prop where
  | punctual {calls : List Call} (punctual : Punctual calls) : Ready a calls
  | ticked {now : Time} {command : Command} {calls : List Call} (quiet : a.Quiet now)
      (punctual : Punctual calls) : Ready a (.handle now command :: calls)

lemma Ready.after (h : a.Ready (call :: calls)) : (a.after call).Ready calls := by
  cases h with
  | ticked _ hcalls => exact .punctual hcalls
  | punctual hcalls =>
    cases call with
    | handle now command => cases hcalls
    | tick now =>
      cases calls with
      | nil => exact .punctual trivial
      | cons next calls =>
        cases next with
        | tick later => exact .punctual hcalls
        | handle time command =>
          obtain ⟨rfl, hrest⟩ := hcalls
          exact .ticked quiet_tick hrest

lemma Ready.after_tick (h : a.Ready (call :: calls)) (hle : now ≤ call.time) :
    (a.after (.tick now)).Ready (call :: calls) := by
  cases h with
  | punctual hcalls => exact .punctual hcalls
  | ticked hquiet hcalls =>
    have hsame : a.after (.tick now) = a := congrArg Prod.fst (tick_of_early (hquiet.mono hle))
    rw [hsame]
    exact .ticked hquiet hcalls

/-- A tick in front of a call that may come next changes nothing. -/
lemma Ready.run_tick (h : a.Ready (call :: calls)) (hle : now ≤ call.time) :
    a.run (.tick now :: call :: calls) = a.run (call :: calls) ∧
      a.groups (.tick now :: call :: calls) = a.groups (call :: calls) := by
  cases h with
  | ticked hquiet _ =>
    have htick : a.answer (.tick now) = (a, .ok none) := by
      rw [answer, tick_of_early (hquiet.mono hle)]
    constructor
    · rw [run_cons, Arbiter.after, htick]
    · rw [groups_cons, Arbiter.after, htick]
      rfl
  | punctual hcalls =>
    cases call with
    | handle later command => cases hcalls
    | tick later =>
      have hle : now ≤ later := hle
      obtain ⟨hsame, hgroups⟩ := tick_tick (a := a) hle
      constructor
      · exact congrArg (fun b : Arbiter => b.run calls) hsame
      · calc a.groups (.tick now :: .tick later :: calls)
          _ = (a.tick now).2.toList ++ ((a.tick now).1.tick later).2.toList ++
              ((a.tick now).1.tick later).1.groups calls := (List.append_assoc ..).symm
          _ = a.groups (.tick later :: calls) := by
            rw [hgroups, hsame]
            rfl

lemma Ready.wakes (h : a.Ready calls) (hwakes : Wakes calls woken) (horder : InOrder woken) :
    a.run woken = a.run calls ∧ a.groups woken = a.groups calls := by
  -- Both runs are at the same arbiter before every call that they share.
  induction hwakes generalizing a with
  | nil => exact ⟨rfl, rfl⟩
  | keep _ ih =>
    obtain ⟨hrun, hgroups⟩ := ih h.after (List.pairwise_cons.mp horder).2
    exact ⟨hrun, congrArg (_ ++ ·) hgroups⟩
  | @wake now call calls woken hrest ih =>
    obtain ⟨hfirst, horder⟩ := List.pairwise_cons.mp horder
    have hle : now ≤ call.time := hfirst call (hrest.sublist.mem List.mem_cons_self)
    obtain ⟨hrun, hgroups⟩ := ih (h.after_tick hle) horder
    obtain ⟨hrun', hgroups'⟩ := h.run_tick hle
    constructor
    · exact hrun.trans hrun'
    · exact (congrArg (_ ++ ·) hgroups).trans hgroups'

/--
After every history, calls that tick at the time of each command before the command leave the same
arbiter and write the same groups when more ticks come in between, at any times in order.
-/
theorem run_wakes (config : Config) (history : List Call) (hpunctual : Punctual calls)
    (hwakes : Wakes calls woken) (horder : InOrder woken) :
    let a := (new config).run history
    a.run woken = a.run calls ∧ a.groups woken = a.groups calls := by
  intro a
  have h : a.Ready calls := .punctual hpunctual
  exact h.wakes hwakes horder

/-- Whether somebody looks when the window ends at 4000, or only when a bad claim comes at 9000, the
light goes out once. -/
theorem run_wakes_vacant_hallway :
    let a := (new {}).run [.handle 0 (.sensorOccupied "hallway" true),
      .handle 1000 (.sensorOccupied "hallway" false)]
    let calls : List Call := [.tick 9000, .handle 9000 (.claim "nobody")]
    let woken : List Call :=
      [.tick 2000, .tick 4000, .tick 4001, .tick 9000, .tick 9000, .handle 9000 (.claim "nobody")]
    Punctual calls ∧ Wakes calls woken ∧ InOrder woken ∧
      a.groups [.tick 2000, .tick 4000] = a.groups calls ∧ (a.groups calls).length = 1 ∧
      a.run woken = a.run calls ∧ a.groups woken = a.groups calls := by
  intro a calls woken
  have hpunctual : Punctual calls := ⟨rfl, trivial⟩
  have hwakes : Wakes calls woken := .wake (.wake (.wake (.keep (.wake (.keep .nil)))))
  have horder : InOrder woken := by decide
  obtain ⟨hrun, hgroups⟩ := run_wakes {} _ hpunctual hwakes horder
  exact ⟨hpunctual, hwakes, horder, by decide, by decide, hrun, hgroups⟩

end Arbiter

end LightArbiter
