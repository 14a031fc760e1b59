import LightArbiter.Proofs.Coloring
import LightArbiter.Proofs.Enrolment
import LightArbiter.Proofs.Mirror
import LightArbiter.Proofs.Pieces

/-!
# Framing of the output

A group is rendered as one line for each directive. Whoever reads the lines gets the directives back
unless the id of the owner has a newline in it: ids are written as they stand, and a payload may
bring any text as an id. All that can break the framing is such an id.
-/

namespace LightArbiter

variable {directive : Directive} {group : Group} {r : UserRecord}

/-- The lines of a rendered group, each with the newline at its end. -/
def outputLines (group : Group) : List (List Char) :=
  cutAfter '\n' (Directive.render group).toList

/-- Does a line tell the state? -/
def tellsState (line : List Char) : Bool := "set state ".toList.isPrefixOf line

/-- Is there one line for each directive, with its text, and exactly one that tells the state? -/
structure Framed (group : Group) : Prop where
  lines : outputLines group = group.map fun directive => directive.text.toList ++ ['\n']
  state : (outputLines group).countP tellsState = 1

/-! ### Texts of directives -/

lemma Color.newline_notMem_text (c : Color) : '\n' ∉ c.text.toList := by
  have hdigits : ∀ component : UInt8, '\n' ∉ componentText component := fun component h =>
    absurd (isDigit_of_mem_componentText h) (by decide)
  simp [text, chars, hdigits]

/-- There is a newline in the text of a directive only if it is in the id of a user. -/
lemma Directive.newline_mem_text :
    '\n' ∈ directive.text.toList ↔ ∃ id, directive = .userId id ∧ '\n' ∈ id.toList := by
  cases directive with
  | color c => simp [text, c.newline_notMem_text]
  | lowLight on => cases on <;> simp [text, boolText]
  | userId id => simp [text]
  | state s => cases s <;> simp [text, LightState.name]
  | tier t => cases t <;> simp [text, Tier.name]

lemma Directive.tellsState_text (rest : List Char) :
    tellsState (directive.text.toList ++ rest) = directive.isState := by
  cases directive <;> simp [tellsState, text, isState, List.isPrefixOf]

lemma Directive.toList_render (group : Group) :
    (render group).toList =
      (group.map fun directive => directive.text.toList).flatMap (· ++ ['\n']) := by
  induction group with
  | nil => rfl
  | cons directive group ih => simp [ih]

lemma outputLines_eq_iff :
    (outputLines group = group.map fun directive => directive.text.toList ++ ['\n']) ↔
      ∀ id, .userId id ∈ group → '\n' ∉ id.toList := by
  have hmap : (group.map fun directive => directive.text.toList ++ ['\n']) =
      (group.map fun directive => directive.text.toList).map (· ++ ['\n']) := by
    rw [List.map_map]
    rfl
  rw [outputLines, Directive.toList_render, hmap, cutAfter_flatMap_iff]
  simp only [List.forall_mem_map, Directive.newline_mem_text]
  constructor
  · intro h id hid hnewline
    exact h _ hid ⟨id, rfl, hnewline⟩
  · rintro h _ hid ⟨id, rfl, hnewline⟩
    exact h id hid hnewline

/-- A group with one directive that tells the state is framed unless there is a newline in an id. -/
lemma framed_iff (hstate : group.countP Directive.isState = 1) :
    Framed group ↔ ∀ id, .userId id ∈ group → '\n' ∉ id.toList := by
  refine ⟨fun h => outputLines_eq_iff.mp h.lines, fun h => ?_⟩
  have hlines := outputLines_eq_iff.mpr h
  refine ⟨hlines, ?_⟩
  rw [hlines, List.countP_map, ← hstate]
  apply List.countP_congr
  intro directive _
  rw [Function.comp_apply, Directive.tellsState_text]

/-! ### Where ids come from -/

lemma Scene.userId_mem_directives {scene : Scene} {palette : Palette} {id : String} :
    .userId id ∈ scene.directives palette ↔ ∃ w, scene.winner = some w ∧ w.userId = id := by
  obtain ⟨winner, present⟩ := scene
  cases winner with
  | none => cases present <;> simp [directives]
  | some w => simp [directives, eq_comm]

namespace Arbiter

variable {config : Config} {a b : Arbiter} {call : Call} {calls : List Call}
  {answer : Except Refusal (Option Group)}

lemma Effect.mem_records (e : Effect a call b answer) (hr : r ∈ b.directory.records) :
    r ∈ a.directory.records ∨
      ∃ now records, call = .handle now (.ownership records) ∧ r ∈ records := by
  cases e with
  | install hmade => exact .inr ⟨_, _, rfl, (Directory.perm_ofRecords hmade).mem_iff.mp hr⟩
  | depart =>
    rw [postpone_window] at hr
    exact .inl hr
  | _ => exact .inl hr

/-- A record of the directory has come with a payload. -/
lemma exists_of_mem_records (hr : r ∈ ((new config).run calls).directory.records) :
    ∃ now records, .handle now (.ownership records) ∈ calls ∧ r ∈ records := by
  induction calls using List.reverseRecOn with
  | nil => cases hr
  | append_singleton calls call ih =>
    rw [run_append, run_cons, run_nil] at hr
    rcases (effect_after _ call).mem_records hr with hr | ⟨now, records, rfl, hrecord⟩
    · obtain ⟨now, records, hmem, hr⟩ := ih hr
      exact ⟨now, records, List.mem_append_left _ hmem, hr⟩
    · exact ⟨now, records, by simp, hrecord⟩

/--
A group that is written in any history is framed exactly if there is no newline in the id of the
owner that it tells, and that id stands in a payload of the history as it is.
-/
theorem framed_iff_newline_notMem (config : Config) (calls : List Call) :
    ∀ group ∈ (new config).groups calls,
      (Framed group ↔ ∀ id, .userId id ∈ group → '\n' ∉ id.toList) ∧
        ∀ id, .userId id ∈ group → ∃ now records r,
          .handle now (.ownership records) ∈ calls ∧ r ∈ records ∧ r.userId = id := by
  intro group hgroup
  obtain ⟨earlier, call, rest, rfl, rfl⟩ := exists_of_mem_groups hgroup
  refine ⟨framed_iff (Scene.countP_isState_directives _ _), fun id hid => ?_⟩
  obtain ⟨w, hw, rfl⟩ := Scene.userId_mem_directives.mp hid
  have hlisted := (coherent_run config (earlier ++ [call])).listed w hw
  obtain ⟨now, records, hmem, hrecord⟩ := exists_of_mem_records hlisted
  refine ⟨now, records, w, ?_, hrecord, rfl⟩
  rw [List.append_cons]
  exact List.mem_append_left _ hmem

/-- An id with a blank and a carriage return in it does no harm. -/
theorem framed_arrival :
    let alice := UserRecord.plain "alice b.\r" .user1
    let calls := [.handle 0 (.ownership [alice]), .handle 0 (.sensorOccupied alice.sensorId true)]
    let group := (⟨some alice, true⟩ : Scene).directives {}
    group ∈ (new {}).groups calls ∧ Framed group := by
  intro alice calls group
  have hgroup : group ∈ (new {}).groups calls := by decide
  refine ⟨hgroup, (framed_iff_newline_notMem {} calls group hgroup).1.mpr ?_⟩
  intro id hid
  obtain ⟨w, hw, rfl⟩ := Scene.userId_mem_directives.mp hid
  cases hw
  decide

/-- Do the calls carry out no commands but those of lines? -/
def FromLines (calls : List Call) : Prop :=
  ∀ now command, .handle now command ∈ calls → ∃ line, Command.ofLine line = .ok command

/-- A user whose id goes on after a newline as a line that tells the state. -/
def forger : UserRecord :=
  { UserRecord.plain "alice" .user1 with userId := "alice\nset state FREE" }

/-- The payload of the forger. -/
def forgery : String :=
  "ownership [\x7b\"user_id\":\"alice\\nset state FREE\",\"user_type\":\"USER1\"," ++
    "\"sensor_id\":\"s-alice\",\"light_color\":\"(10, 20, 30)\",\"low_light\":false," ++
    "\"user_location_x\":0,\"user_location_y\":0\x7d]"

lemma ofLine_forgery : Command.ofLine forgery = .ok (.ownership [forger]) := by
  decide +kernel

/-- Not every group that lines lead to is framed: an id that a payload brings can add a line, which
tells the state as well. -/
theorem not_framed_forgery :
    ¬∀ (config : Config) (calls : List Call), FromLines calls →
      ∀ group ∈ (new config).groups calls, Framed group := by
  intro h
  let calls : List Call :=
    [.handle 0 (.ownership [forger]), .handle 0 (.sensorOccupied "s-alice" true)]
  have hlines : FromLines calls := by
    intro now command hcall
    simp only [calls, List.mem_cons, Call.handle.injEq, List.not_mem_nil, or_false] at hcall
    rcases hcall with ⟨-, rfl⟩ | ⟨-, rfl⟩
    · exact ⟨forgery, ofLine_forgery⟩
    · exact ⟨"sensor_occupied s-alice true", by decide⟩
  have hgroup : (⟨some forger, true⟩ : Scene).directives {} ∈ (new {}).groups calls := by decide
  have hnewline := (framed_iff (by decide)).mp (h {} calls hlines _ hgroup) forger.userId
  exact hnewline (by decide) (by decide)

-- The group of the forger has two lines that tell the state, and the first of them says `FREE`.
example :
    let lines := outputLines ((⟨some forger, true⟩ : Scene).directives {})
    lines.filter tellsState = ["set state FREE\n".toList, "set state USED\n".toList] := by
  decide

end Arbiter

end LightArbiter
