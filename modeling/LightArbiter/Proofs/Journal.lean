import LightArbiter.Proofs.History
import LightArbiter.Rehearsal

/-!
# Journals of runs

The journal of a run lists the inputs that its session takes, each with the session that it finds
and the time at which it comes. For an input the session makes certain calls of its arbiter, and
these say all that the input does, so that what holds of histories of an arbiter holds along a
journal.
-/

namespace LightArbiter

/-! ### What calls write -/

/-- The groups that an answer writes: one, unless nothing has changed or the command is refused. -/
def written : Except Refusal (Option Group) → List Group
  | .ok group => group.toList
  | .error _ => []

lemma Arbiter.handle_of_refused {a : Arbiter} {now : Time} {command : Command} {refusal : Refusal}
    (h : (a.handle now command).2 = .error refusal) : (a.handle now command).1 = a := by
  have e : Effect a (.handle now command) (a.handle now command).1 (a.handle now command).2 :=
    effect_answer a (.handle now command)
  rw [h] at e
  generalize (a.handle now command).1 = b at e ⊢
  cases e
  rfl

/-- The groups that calls write, in order. -/
def Arbiter.groups (a : Arbiter) : List Call → List Group
  | [] => []
  | call :: calls => written (a.answer call).2 ++ (a.after call).groups calls

section Groups

variable {a : Arbiter} {call : Call} {calls later : List Call}

@[simp] lemma Arbiter.groups_nil : a.groups [] = [] := rfl

@[simp] lemma Arbiter.groups_cons :
    a.groups (call :: calls) = written (a.answer call).2 ++ (a.after call).groups calls := rfl

lemma Arbiter.groups_append :
    a.groups (calls ++ later) = a.groups calls ++ (a.run calls).groups later := by
  induction calls generalizing a with
  | nil => rfl
  | cons call calls ih =>
    rw [List.cons_append, groups_cons, groups_cons, run_cons, ih, List.append_assoc]

end Groups

lemma Session.handle_eq (s : Session) (now : Time) (command : Command) :
    (s.handle now command).1.arbiter = s.arbiter.after (.handle now command) ∧
      (s.handle now command).2 = written (s.arbiter.answer (.handle now command)).2 := by
  rw [Session.handle, Arbiter.after, Arbiter.answer]
  cases s.arbiter.handle now command with
  | mk a answer => cases answer <;> exact ⟨rfl, rfl⟩

/-! ### Inputs and what they do -/

/-- An input that a session takes: the session that it finds, the time at which it comes, and what
it is. -/
structure Entry where
  session : Session
  time : Time
  input : Input

namespace Entry

/-- The arbiter that the input finds. -/
def arbiter (e : Entry) : Arbiter := e.session.arbiter

/-- What the session makes of the input, and the groups to write. -/
def result (e : Entry) : Session × List Group :=
  match e.input with
  | .line text => e.session.takeLine e.time text
  | .deadline => e.session.tick e.time
  | .closed => (e.session, [])

/-- What is written because of the input, at the time of the input. -/
def emissions (e : Entry) : List Emission :=
  e.result.2.map fun group => ⟨e.time, group⟩

/-- The session when the groups are written and counted. -/
def next (e : Entry) : Session :=
  e.result.2.foldl (fun s _ => s.countEmitted) e.result.1

/-- The line that comes, with its time. -/
def cue? (e : Entry) : Option Cue :=
  match e.input with
  | .line text => some ⟨e.time, text⟩
  | .deadline => none
  | .closed => none

/-- The calls that the session makes of its arbiter for the input. -/
def calls (e : Entry) : List Call :=
  match e.input with
  | .line text =>
    if isBlankLine text then []
    else .tick e.time ::
      match Command.ofLine text with
      | .ok command => [.handle e.time command]
      | .error _ => []
  | .deadline => [.tick e.time]
  | .closed => []

/-- The calls say what the input does to the arbiter, and what is written. -/
lemma result_eq (e : Entry) :
    e.result.1.arbiter = e.arbiter.run e.calls ∧ e.result.2 = e.arbiter.groups e.calls := by
  obtain ⟨s, now, input⟩ := e
  cases input with
  | deadline => exact ⟨rfl, (List.append_nil _).symm⟩
  | closed => exact ⟨rfl, rfl⟩
  | line text =>
    simp only [result, calls, arbiter, Session.takeLine]
    -- A blank line is not even a tick.
    split_ifs with hblank
    · exact ⟨rfl, rfl⟩
    · cases hcommand : Command.ofLine text with
      | error bad =>
        simp only [Session.obey, hcommand]
        exact ⟨rfl, rfl⟩
      | ok command =>
        obtain ⟨harbiter, hgroups⟩ := Session.handle_eq (s.countLine.tick now).1 now command
        simp only [Session.obey, hcommand, harbiter, hgroups, Arbiter.groups, List.append_nil]
        exact ⟨rfl, rfl⟩

lemma arbiter_counted (groups : List Group) (s : Session) :
    (groups.foldl (fun s _ => s.countEmitted) s).arbiter = s.arbiter := by
  induction groups generalizing s with
  | nil => rfl
  | cons group groups ih => exact ih s.countEmitted

lemma arbiter_next (e : Entry) : e.next.arbiter = e.arbiter.run e.calls :=
  (arbiter_counted _ _).trans e.result_eq.1

lemma emissions_eq (e : Entry) :
    e.emissions = (e.arbiter.groups e.calls).map fun group => ⟨e.time, group⟩ := by
  rw [emissions, e.result_eq.2]

/-- What an input does to the arbiter, and what it writes, depends on the arbiter alone. -/
lemma congr {e f : Entry} (harbiter : e.arbiter = f.arbiter) (htime : e.time = f.time)
    (hinput : e.input = f.input) :
    e.next.arbiter = f.next.arbiter ∧ e.emissions = f.emissions := by
  have hcalls : e.calls = f.calls := by rw [calls, calls, htime, hinput]
  rw [arbiter_next, arbiter_next, emissions_eq, emissions_eq, harbiter, hcalls, htime]
  exact ⟨rfl, rfl⟩

/-! ### What becomes of a line -/

/-- Is the input a line with this command? -/
def Carries (e : Entry) (command : Command) : Prop :=
  ∃ text, e.input = .line text ∧ Command.ofLine text = .ok command

/-- What the arbiter answers to a command of the line, once the time has passed. -/
def answer (e : Entry) (command : Command) : Except Refusal (Option Group) :=
  ((e.arbiter.tick e.time).1.handle e.time command).2

/-- A line that comes to nothing: it is blank, or no command, or its command is refused. -/
inductive Vain (e : Entry) : Prop where
  | blank {text : String} (input : e.input = .line text) (blank : isBlankLine text = true) : Vain e
  | unparsable {text : String} {bad : BadLine} (input : e.input = .line text)
      (unparsable : Command.ofLine text = .error bad) : Vain e
  | refused {command : Command} {refusal : Refusal} (carries : e.Carries command)
      (refused : e.answer command = .error refusal) : Vain e

/-- Does no outcome fall due before the input or with it? -/
def Early (e : Entry) : Prop :=
  ∀ d, e.arbiter.deadline = some d → e.time < d

variable {e : Entry} {command : Command}

lemma not_isBlankLine_of_ofLine {text : String} (h : Command.ofLine text = .ok command) :
    isBlankLine text = false := by
  by_contra hblank
  have htrim : Text.trim text.toList = [] := by simpa [isBlankLine] using hblank
  rw [Command.ofLine, Command.ofChars, htrim] at h
  cases h

lemma Carries.unique {command' : Command} (h : e.Carries command) (h' : e.Carries command') :
    command = command' := by
  obtain ⟨text, hinput, hcommand⟩ := h
  obtain ⟨text', hinput', hcommand'⟩ := h'
  cases hinput.symm.trans hinput'
  exact Except.ok.inj (hcommand.symm.trans hcommand')

/-- A line with a command comes to nothing only if the command is refused. -/
lemma Vain.refused_of_carries (hvain : e.Vain) (hcarries : e.Carries command) :
    ∃ refusal, e.answer command = .error refusal := by
  cases hvain with
  | blank hinput hblank =>
    obtain ⟨text, htext, hcommand⟩ := hcarries
    cases hinput.symm.trans htext
    cases hblank.symm.trans (not_isBlankLine_of_ofLine hcommand)
  | unparsable hinput hbad =>
    obtain ⟨text, htext, hcommand⟩ := hcarries
    cases hinput.symm.trans htext
    cases hbad.symm.trans hcommand
  | @refused command' refusal hcarries' hrefused =>
    exact ⟨refusal, hcarries.unique hcarries' ▸ hrefused⟩

lemma Early.tick_eq (h : e.Early) : e.arbiter.tick e.time = (e.arbiter, none) := by
  refine Arbiter.tick_of_early fun deferral hp => h _ ?_
  rw [Arbiter.deadline, Window.deadline, hp]
  rfl

lemma Early.answer_eq (h : e.Early) :
    e.answer command = (e.arbiter.handle e.time command).2 := by
  rw [answer, h.tick_eq]

/-- A line that comes while nothing is due does what its command does, and nothing else. -/
lemma Carries.spec (hcarries : e.Carries command) (h : e.Early) :
    e.next.arbiter = (e.arbiter.handle e.time command).1 ∧
      e.emissions = (written (e.answer command)).map fun group => ⟨e.time, group⟩ := by
  obtain ⟨text, hinput, hcommand⟩ := hcarries
  have hcalls : e.calls = [.tick e.time, .handle e.time command] := by
    simp [calls, hinput, hcommand, not_isBlankLine_of_ofLine hcommand]
  rw [arbiter_next, emissions_eq, hcalls, h.answer_eq]
  simp only [Arbiter.run_cons, Arbiter.run_nil, Arbiter.groups, Arbiter.after, Arbiter.answer,
    h.tick_eq]
  simp [written]

/-- A line that comes to nothing leaves the arbiter as it is, and nothing is written. -/
lemma Vain.spec (hvain : e.Vain) (h : e.Early) :
    e.next.arbiter = e.arbiter ∧ e.emissions = [] := by
  cases hvain with
  | blank hinput hblank =>
    have hcalls : e.calls = [] := by simp [calls, hinput, hblank]
    rw [arbiter_next, emissions_eq, hcalls]
    exact ⟨rfl, rfl⟩
  | @unparsable text bad hinput hbad =>
    rw [arbiter_next, emissions_eq]
    simp only [calls, hinput, hbad]
    split_ifs
    · exact ⟨rfl, rfl⟩
    · simp [Arbiter.groups, Arbiter.after, Arbiter.answer, h.tick_eq, written]
  | @refused command refusal hcarries hrefused =>
    obtain ⟨hnext, hemissions⟩ := hcarries.spec h
    rw [hnext, hemissions, hrefused]
    rw [h.answer_eq] at hrefused
    exact ⟨Arbiter.handle_of_refused hrefused, rfl⟩

end Entry

/-! ### The journal of a run -/

namespace Run

variable {σ ε : Type} [Channel σ ε] {r r' : Run σ}

/-- The input that comes next, unless the channel fails. -/
def entry? (r : Run σ) : Option Entry :=
  match Channel.receive r.channel r.session.arbiter.deadline with
  | (.ok input, channel) => some ⟨r.session, Channel.now channel, input⟩
  | (.error _, _) => none

/-- The inputs that the session takes, until the channel is closed or fails. -/
def journal (r : Run σ) : List Entry :=
  match h : step r with
  | (.ok true, r') =>
    have := remaining_step h
    r.entry?.toList ++ journal r'
  | _ => []
termination_by r.remaining

lemma run_of_open (h : step r = (.ok true, r')) : run r = run r' := by
  rw [run]
  split <;> simp_all

lemma run_of_closed (h : step r = (.ok false, r')) : run r = (.ok (), r') := by
  rw [run]
  split <;> simp_all

lemma journal_of_open (h : step r = (.ok true, r')) :
    r.journal = r.entry?.toList ++ r'.journal := by
  rw [journal]
  split <;> simp_all

lemma journal_of_closed (h : step r = (.ok false, r')) : r.journal = [] := by
  rw [journal]
  split <;> simp_all

end Run

end LightArbiter
