import LightArbiter.Proofs.Departure
import LightArbiter.Proofs.Journal

/-!
# Agendas

If lines come at set times then the journal of a run is determined by them: each line at its time,
and before it the end of a window that is due by then. `Agenda` says so, with one constructor for
each thing that may come next. `Timely` is what it takes of a channel, and a run on such a channel
keeps to the agenda of its lines; a rehearsal is one.
-/

namespace LightArbiter

/-! ### Lines in order -/

/-- No line comes before the line in front of it. -/
def Cue.Sorted (cues : List Cue) : Prop :=
  cues.Pairwise fun cue later => cue.time ≤ later.time

instance (cues : List Cue) : Decidable (Cue.Sorted cues) :=
  inferInstanceAs (Decidable (List.Pairwise _ _))

/-- No line comes before the line in front of it, and the first one not before a time. -/
def Cue.SortedFrom (start : Time) : List Cue → Prop
  | [] => True
  | cue :: cues => start ≤ cue.time ∧ SortedFrom cue.time cues

lemma Cue.sortedFrom_of_sorted {start : Time} {cues : List Cue} (h : Cue.Sorted cues)
    (hstart : ∀ cue ∈ cues, start ≤ cue.time) : Cue.SortedFrom start cues := by
  induction cues generalizing start with
  | nil => trivial
  | cons cue cues ih =>
    obtain ⟨hcue, hcues⟩ := List.pairwise_cons.mp h
    exact ⟨hstart cue List.mem_cons_self, ih hcues hcue⟩

lemma Cue.SortedFrom.mono {start d : Time} {cues : List Cue} (h : Cue.SortedFrom start cues)
    (hd : ∀ cue ∈ cues.head?, d ≤ cue.time) : Cue.SortedFrom d cues := by
  cases cues with
  | nil => trivial
  | cons cue cues => exact ⟨hd cue rfl, h.2⟩

/-! ### What comes when -/

/-- The inputs that come to a session with certain lines ahead, and the session that they leave. -/
inductive Agenda : Session → List Cue → List Entry → Session → Prop where
  /-- No line comes and nothing waits. -/
  | close {s : Session} (idle : s.arbiter.deadline = none) : Agenda s [] [] s
  /-- A window ends before the next line or with it. -/
  | expire {s t : Session} {cues : List Cue} {entries : List Entry} {d : Time}
      (pending : s.arbiter.deadline = some d) (due : ∀ cue ∈ cues.head?, d ≤ cue.time)
      (rest : Agenda (Entry.next ⟨s, d, .deadline⟩) cues entries t) :
      Agenda s cues (⟨s, d, .deadline⟩ :: entries) t
  /-- A line comes before the end of the window. -/
  | line {s t : Session} {cue : Cue} {cues : List Cue} {entries : List Entry}
      (early : Entry.Early ⟨s, cue.time, .line cue.line⟩)
      (rest : Agenda (Entry.next ⟨s, cue.time, .line cue.line⟩) cues entries t) :
      Agenda s (cue :: cues) (⟨s, cue.time, .line cue.line⟩ :: entries) t

lemma Agenda.cues_eq {s t : Session} {cues : List Cue} {entries : List Entry}
    (h : Agenda s cues entries t) : entries.filterMap Entry.cue? = cues := by
  induction h with
  | close _ => rfl
  | expire _ _ _ ih => exact ih
  | line _ _ ih => exact congrArg (List.cons _) ih

/-- An input that comes at its time: a line while nothing is due, or the end of the window. -/
inductive Entry.OnTime (e : Entry) : Prop where
  | line {text : String} (input : e.input = .line text) (early : e.Early) : OnTime e
  | deadline (input : e.input = .deadline) (pending : e.arbiter.deadline = some e.time) : OnTime e

lemma Agenda.of_cons {s t : Session} {cues : List Cue} {e : Entry} {entries : List Entry}
    (h : Agenda s cues (e :: entries) t) :
    e.session = s ∧ e.OnTime ∧ ∃ rest, Agenda e.next rest entries t := by
  cases h with
  | expire hpending _ hrest => exact ⟨rfl, .deadline rfl hpending, _, hrest⟩
  | line hearly hrest => exact ⟨rfl, .line rfl hearly, _, hrest⟩

/-! Whether a window ends next, or a line comes, or neither, is determined. -/

section Inversion

variable {s t : Session} {cue : Cue} {cues : List Cue} {entries : List Entry} {d : Time}

lemma Agenda.of_idle (h : Agenda s [] entries t) (hidle : s.arbiter.deadline = none) :
    entries = [] ∧ s = t := by
  cases h with
  | close _ => exact ⟨rfl, rfl⟩
  | expire hpending _ _ => cases hidle.symm.trans hpending

lemma Agenda.of_due (h : Agenda s cues entries t) (hpending : s.arbiter.deadline = some d)
    (hdue : ∀ cue ∈ cues.head?, d ≤ cue.time) :
    ∃ rest, entries = ⟨s, d, .deadline⟩ :: rest ∧
      Agenda (Entry.next ⟨s, d, .deadline⟩) cues rest t := by
  cases h with
  | close hidle => cases hidle.symm.trans hpending
  | expire hpending' _ hrest =>
    cases hpending.symm.trans hpending'
    exact ⟨_, rfl, hrest⟩
  | line hearly _ => exact absurd (hearly d hpending) (Nat.not_lt.mpr (hdue _ rfl))

lemma Agenda.of_early (h : Agenda s (cue :: cues) entries t)
    (hearly : Entry.Early ⟨s, cue.time, .line cue.line⟩) :
    ∃ rest, entries = ⟨s, cue.time, .line cue.line⟩ :: rest ∧
      Agenda (Entry.next ⟨s, cue.time, .line cue.line⟩) cues rest t := by
  cases h with
  | expire hpending hdue _ => exact absurd (hearly _ hpending) (Nat.not_lt.mpr (hdue cue rfl))
  | line _ hrest => exact ⟨_, rfl, hrest⟩

end Inversion

/-- What comes is determined by the session and the lines ahead. -/
lemma Agenda.unique {s t t' : Session} {cues : List Cue} {entries entries' : List Entry}
    (h : Agenda s cues entries t) (h' : Agenda s cues entries' t') :
    entries' = entries ∧ t' = t := by
  induction h generalizing entries' with
  | close hidle =>
    obtain ⟨rfl, rfl⟩ := h'.of_idle hidle
    exact ⟨rfl, rfl⟩
  | expire hpending hdue _ ih =>
    obtain ⟨rest, rfl, hrest⟩ := h'.of_due hpending hdue
    obtain ⟨rfl, rfl⟩ := ih hrest
    exact ⟨rfl, rfl⟩
  | line hearly _ ih =>
    obtain ⟨rest, rfl, hrest⟩ := h'.of_early hearly
    obtain ⟨rfl, rfl⟩ := ih hrest
    exact ⟨rfl, rfl⟩

/-- What holds of a session at first, after the entries of the past, and is kept by every entry,
holds before every entry. -/
lemma Agenda.invariant {P : List Entry → Session → Prop} {s t : Session} {cues : List Cue}
    {past earlier later : List Entry} (h : Agenda s cues (earlier ++ later) t) (initial : P past s)
    (step : ∀ past e, P past e.session → e.OnTime → P (past ++ [e]) e.next) :
    ∃ u rest, P (past ++ earlier) u ∧ Agenda u rest later t := by
  induction earlier generalizing s cues past with
  | nil => exact ⟨s, cues, by simpa using initial, h⟩
  | cons e earlier ih =>
    obtain ⟨rfl, hontime, rest, hrest⟩ := h.of_cons
    obtain ⟨u, rest', hu, hlater⟩ := ih hrest (step past e initial hontime)
    exact ⟨u, rest', by simpa using hu, hlater⟩

/-! ### The end of a window lies ahead -/

/-- Does no outcome wait that was due before a time? -/
def Arbiter.PunctualAt (a : Arbiter) (now : Time) : Prop :=
  ∀ d, a.deadline = some d → now ≤ d

lemma Arbiter.deadline_eq_some {a : Arbiter} {d : Time} :
    a.deadline = some d ↔ ∃ deferral, a.window.pending = some deferral ∧ deferral.deadline = d :=
  Option.map_eq_some_iff

lemma Arbiter.PunctualAt.after {a : Arbiter} {call : Call} (h : a.PunctualAt call.time) :
    (a.after call).PunctualAt call.time := by
  intro d hd
  obtain ⟨deferral, hp, rfl⟩ := Arbiter.deadline_eq_some.mp hd
  rcases (Arbiter.effect_after a call).deadline hp with hp' | hdeadline
  · exact h _ (Arbiter.deadline_eq_some.mpr ⟨deferral, hp', rfl⟩)
  · exact hdeadline ▸ Nat.le_add_right _ _

lemma Arbiter.PunctualAt.run {a : Arbiter} {now : Time} {calls : List Call} (h : a.PunctualAt now)
    (hcalls : ∀ call ∈ calls, call.time = now) : (a.run calls).PunctualAt now := by
  induction calls generalizing a with
  | nil => exact h
  | cons call calls ih =>
    rw [List.forall_mem_cons] at hcalls
    refine ih ?_ hcalls.2
    rw [← hcalls.1] at h ⊢
    exact h.after

lemma Entry.time_of_mem_calls {e : Entry} {call : Call} (h : call ∈ e.calls) :
    call.time = e.time := by
  obtain ⟨s, now, input⟩ := e
  cases input with
  | deadline => simp_all [Entry.calls, Call.time]
  | closed => simp [Entry.calls] at h
  | line text =>
    simp only [Entry.calls] at h
    split_ifs at h
    · cases h
    · cases hcommand : Command.ofLine text <;> simp only [hcommand, List.mem_cons] at h <;>
        rcases h with rfl | h <;> simp_all [Call.time]

lemma Entry.punctualAt_next {e : Entry} (h : e.arbiter.PunctualAt e.time) :
    e.next.arbiter.PunctualAt e.time := by
  rw [e.arbiter_next]
  exact h.run fun _ hcall => Entry.time_of_mem_calls hcall

/-! ### Timely channels -/

section Timely

variable {σ ε : Type} [Channel σ ε]

/--
What it takes of a channel to bring lines at set times and to fail in nothing. A state `c` serves
`cues` after `log` if these lines are still to come from it and this has been written so far.
-/
structure Timely (serves : σ → List Cue → List Emission → Prop) : Prop where
  close {c : σ} {log : List Emission} : serves c [] log →
    ∃ c', Channel.receive c none = (.ok .closed, c') ∧ Channel.now c' = Channel.now c ∧
      serves c' [] log
  expire {c : σ} {cues : List Cue} {log : List Emission} {d : Time} : serves c cues log →
    Channel.now c ≤ d → (∀ cue ∈ cues.head?, d ≤ cue.time) →
      ∃ c', Channel.receive c (some d) = (.ok .deadline, c') ∧ Channel.now c' = d ∧
        serves c' cues log
  line {c : σ} {cue : Cue} {cues : List Cue} {log : List Emission} {deadline : Option Time} :
    serves c (cue :: cues) log → (∀ d, deadline = some d → cue.time < d) →
      ∃ c', Channel.receive c deadline = (.ok (.line cue.line), c') ∧ Channel.now c' = cue.time ∧
        serves c' cues log
  emit {c : σ} {cues : List Cue} {log : List Emission} (group : Group) : serves c cues log →
    ∃ c', Channel.emit c group = (.ok (), c') ∧
      serves c' cues (log ++ [⟨Channel.now c, group⟩])

/-- A run that has kept to the agenda of its lines, and written what its journal says. -/
structure EndsIn (serves : σ → List Cue → List Emission → Prop) (r : Run σ) (cues : List Cue)
    (log : List Emission) (final : Run σ) : Prop where
  run : r.run = (.ok (), final)
  agenda : Agenda r.session cues r.journal final.session
  served : serves final.channel [] (log ++ r.journal.flatMap Entry.emissions)
  clock : Channel.now final.channel = r.journal.foldl (fun _ e => e.time) (Channel.now r.channel)

namespace Timely

variable {serves : σ → List Cue → List Emission → Prop} {c c' : σ} {s : Session}
  {cues : List Cue} {log : List Emission} {input : Input}

lemma emitAll (ht : Timely serves) (groups : List Group) (h : serves c cues log) :
    ∃ c', Run.emitAll ⟨c, s⟩ groups =
        (.ok (), ⟨c', groups.foldl (fun s _ => s.countEmitted) s⟩) ∧
      Channel.now c' = Channel.now c ∧
      serves c' cues (log ++ groups.map fun group => ⟨Channel.now c, group⟩) := by
  induction groups generalizing c s log with
  | nil => exact ⟨c, rfl, rfl, by simpa using h⟩
  | cons group groups ih =>
    obtain ⟨c₁, hemit, h₁⟩ := ht.emit group h
    have hnow : Channel.now c₁ = Channel.now c := by
      have := Channel.now_emit c group
      rwa [hemit] at this
    obtain ⟨c₂, hall, hnow₂, h₂⟩ := ih h₁ (s := s.countEmitted)
    refine ⟨c₂, ?_, hnow₂.trans hnow, ?_⟩
    · rw [Run.emitAll, hemit]
      exact hall
    · rw [hnow] at h₂
      simpa using h₂

lemma step (ht : Timely serves) (hreceive : Channel.receive c s.arbiter.deadline = (.ok input, c'))
    (hinput : input ≠ .closed) (h : serves c' cues log) :
    let e : Entry := ⟨s, Channel.now c', input⟩
    ∃ c'', Run.step ⟨c, s⟩ = (.ok true, ⟨c'', e.next⟩) ∧
      Run.journal ⟨c, s⟩ = e :: Run.journal ⟨c'', e.next⟩ ∧
      Channel.now c'' = Channel.now c' ∧ serves c'' cues (log ++ e.emissions) := by
  intro e
  obtain ⟨c'', hemit, hnow, h''⟩ := ht.emitAll e.result.2 h (s := e.result.1)
  have hstep : Run.step ⟨c, s⟩ = (.ok true, ⟨c'', e.next⟩) := by
    rw [Run.step, hreceive]
    cases input with
    | closed => exact absurd rfl hinput
    | line text =>
      simp only [Run.respond, Run.deliver]
      rw [show s.takeLine (Channel.now c') text = e.result from rfl, hemit]
      rfl
    | deadline =>
      simp only [Run.respond, Run.deliver]
      rw [show s.tick (Channel.now c') = e.result from rfl, hemit]
      rfl
  have hentry : Run.entry? ⟨c, s⟩ = some e := by rw [Run.entry?, hreceive]
  refine ⟨c'', hstep, ?_, hnow, h''⟩
  rw [Run.journal_of_open hstep, hentry]
  rfl

/-- A run that takes an input keeps to the agenda if it keeps to the rest of the agenda after it. -/
lemma endsIn_of_receive (ht : Timely serves) {rest : List Cue} {e : Entry}
    (hreceive : Channel.receive c e.arbiter.deadline = (.ok e.input, c'))
    (hinput : e.input ≠ .closed) (htime : Channel.now c' = e.time) (h : serves c' rest log)
    (hagenda : ∀ {entries t}, Agenda e.next rest entries t →
      Agenda e.session cues (e :: entries) t)
    (hrest : ∀ {c''}, Run.remaining ⟨c'', e.next⟩ < Run.remaining ⟨c, e.session⟩ →
      serves c'' rest (log ++ e.emissions) → Channel.now c'' = e.time →
        ∃ final, EndsIn serves ⟨c'', e.next⟩ rest (log ++ e.emissions) final) :
    ∃ final, EndsIn serves ⟨c, e.session⟩ cues log final := by
  obtain ⟨c'', hstep, hjournal, hnow, h''⟩ := ht.step hreceive hinput h
  rw [htime] at hstep hjournal hnow h''
  obtain ⟨final, hfinal⟩ := hrest (Run.remaining_step hstep) h'' hnow
  refine ⟨final, (Run.run_of_open hstep).trans hfinal.run, ?_, ?_, ?_⟩
  · rw [hjournal]
    exact hagenda hfinal.agenda
  · rw [hjournal, List.flatMap_cons, ← List.append_assoc]
    exact hfinal.served
  · rw [hjournal, hfinal.clock, hnow]
    rfl

/-- A run on a timely channel keeps to the agenda of its lines, up to its end. -/
theorem endsIn (ht : Timely serves) (h : serves c cues log)
    (hpunctual : s.arbiter.PunctualAt (Channel.now c)) :
    ∃ final, EndsIn serves ⟨c, s⟩ cues log final := by
  induction hn : Run.remaining ⟨c, s⟩ using Nat.strong_induction_on generalizing c s cues log with
  | _ n ih =>
    subst hn
    -- Either a window ends before the next line, or there is a line that comes before, or neither.
    by_cases hdue : ∃ d, s.arbiter.deadline = some d ∧ ∀ cue ∈ cues.head?, d ≤ cue.time
    · obtain ⟨d, hd, hdue⟩ := hdue
      obtain ⟨c₁, hreceive, hnow, h₁⟩ := ht.expire h (hpunctual d hd) hdue
      rw [← hd] at hreceive
      refine ht.endsIn_of_receive (e := ⟨s, d, .deadline⟩) hreceive (by simp) hnow h₁
        (.expire hd hdue) fun hlt hserves hnow' => ih _ hlt hserves ?_ rfl
      rw [hnow']
      refine Entry.punctualAt_next (e := ⟨s, d, .deadline⟩) fun d' hd' => ?_
      exact (Option.some.inj (hd.symm.trans hd')).le
    · cases cues with
      | cons cue cues =>
        have hearly : ∀ d, s.arbiter.deadline = some d → cue.time < d := by
          intro d hd
          by_contra hle
          exact hdue ⟨d, hd, by simpa using hle⟩
        obtain ⟨c₁, hreceive, hnow, h₁⟩ := ht.line h hearly
        refine ht.endsIn_of_receive (e := ⟨s, cue.time, .line cue.line⟩) hreceive (by simp) hnow h₁
          (.line hearly) fun hlt hserves hnow' => ih _ hlt hserves ?_ rfl
        rw [hnow']
        exact Entry.punctualAt_next (e := ⟨s, cue.time, .line cue.line⟩)
          fun d hd => Nat.le_of_lt (hearly d hd)
      | nil =>
        have hidle : s.arbiter.deadline = none := by
          by_contra hne
          obtain ⟨d, hd⟩ := Option.ne_none_iff_exists'.mp hne
          exact hdue ⟨d, hd, by simp⟩
        obtain ⟨c₁, hreceive, hnow, h₁⟩ := ht.close h
        have hstep : Run.step ⟨c, s⟩ = (.ok false, ⟨c₁, s⟩) := by
          rw [Run.step, hidle, hreceive]
          rfl
        have hjournal := Run.journal_of_closed hstep
        refine ⟨⟨c₁, s⟩, Run.run_of_closed hstep, ?_, ?_, ?_⟩
        · rw [hjournal]
          exact .close hidle
        · rw [hjournal, List.flatMap_nil, List.append_nil]
          exact h₁
        · rw [hjournal]
          exact hnow

end Timely

end Timely

/-! ### Rehearsals are timely -/

namespace Rehearsal

variable {s : Rehearsal} {script : List Cue}

/-- Are these lines in the queue, in order from now on, and has this been written? -/
def Serves (s : Rehearsal) (cues : List Cue) (log : List Emission) : Prop :=
  s.queue = cues ∧ s.emissions = log ∧ Cue.SortedFrom s.clock cues

lemma timely : Timely Serves where
  close {s log} h := by
    obtain ⟨hqueue, hlog, -⟩ := h
    refine ⟨s, ?_, rfl, hqueue, hlog, trivial⟩
    simp [Channel.receive, receive, takeLine, hqueue]
  expire {s cues log d} h hnow hdue := by
    obtain ⟨hqueue, hlog, hsorted⟩ := h
    have hclock : max s.clock d = d := Nat.max_eq_right hnow
    refine ⟨s.advance d, ?_, hclock, hqueue, hlog, ?_⟩
    · cases cues with
      | nil => simp [Channel.receive, receive, hqueue]
      | cons cue cues =>
        have hle : d ≤ cue.time := hdue cue rfl
        simp [Channel.receive, receive, hqueue, hle]
    · show Cue.SortedFrom (max s.clock d) cues
      rw [hclock]
      exact hsorted.mono hdue
  line {s cue cues log deadline} h hearly := by
    obtain ⟨hqueue, hlog, hle, hsorted⟩ := h
    have hclock : max s.clock cue.time = cue.time := Nat.max_eq_right hle
    have htake : s.takeLine = (.line cue.line, { s with queue := cues }.advance cue.time) := by
      rw [takeLine, hqueue]
    refine ⟨{ s with queue := cues }.advance cue.time, ?_, hclock, rfl, hlog, ?_⟩
    · cases deadline with
      | none => simp [Channel.receive, receive, htake]
      | some d =>
        have hlt : ¬d ≤ cue.time := Nat.not_le.mpr (hearly d rfl)
        simp [Channel.receive, receive, htake, hqueue, hlt]
    · show Cue.SortedFrom (max s.clock cue.time) cues
      rw [hclock]
      exact hsorted
  emit {s cues log} group h := by
    obtain ⟨hqueue, hlog, hsorted⟩ := h
    exact ⟨s.emit group, rfl, hqueue, by rw [← hlog]; rfl, hsorted⟩

/-! ### The lines of a script -/

lemma sorted_push {time : Time} {line : String} (h : Cue.Sorted s.queue) :
    Cue.Sorted (s.push time line).queue := by
  simp only [push, Cue.Sorted, List.pairwise_append, List.pairwise_singleton, List.mem_singleton,
    forall_eq, true_and]
  refine ⟨h, fun cue hcue => ?_⟩
  cases hlast : s.queue.getLast? with
  | none => simp [List.getLast?_eq_none_iff.mp hlast] at hcue
  | some last =>
    have hqueue : s.queue.dropLast ++ [last] = s.queue :=
      List.dropLast_append_getLast? last hlast
    rw [← hqueue] at hcue
    rcases List.mem_append.mp hcue with hcue | hcue
    · rw [Cue.Sorted, ← hqueue] at h
      have hle : cue.time ≤ last.time :=
        (List.pairwise_append.mp h).2.2 cue hcue last (List.mem_singleton_self last)
      exact hle.trans (Nat.le_max_right ..)
    · rw [List.mem_singleton.mp hcue]
      exact Nat.le_max_right ..

lemma queue_push {time : Time} {line : String} (h : Cue.Sorted (s.queue ++ [⟨time, line⟩])) :
    (s.push time line).queue = s.queue ++ [⟨time, line⟩] := by
  cases hlast : s.queue.getLast? with
  | none => simp [push, hlast]
  | some last =>
    have hle : last.time ≤ time :=
      (List.pairwise_append.mp h).2.2 last (List.mem_of_getLast? hlast) _
        (List.mem_singleton_self _)
    simp [push, hlast, Nat.max_eq_left hle]

lemma sorted_pushAll (h : Cue.Sorted s.queue) : Cue.Sorted (s.pushAll script).queue := by
  induction script generalizing s with
  | nil => exact h
  | cons cue script ih => exact ih (sorted_push h)

lemma queue_pushAll (h : Cue.Sorted (s.queue ++ script)) :
    (s.pushAll script).queue = s.queue ++ script := by
  induction script generalizing s with
  | nil => exact (List.append_nil _).symm
  | cons cue script ih =>
    rw [List.append_cons] at h
    have hpush : (s.push cue.time cue.line).queue = s.queue ++ [cue] :=
      queue_push (List.pairwise_append.mp h).1
    calc ((s.push cue.time cue.line).pushAll script).queue
        = (s.push cue.time cue.line).queue ++ script := ih (by rwa [hpush])
      _ = s.queue ++ cue :: script := by rw [hpush, List.append_assoc, List.singleton_append]

lemma pushAll_eq : s.pushAll script = { s with queue := (s.pushAll script).queue } := by
  induction script generalizing s with
  | nil => rfl
  | cons cue script ih => exact ih

lemma clock_ofScript (script : List Cue) : (ofScript script).clock = 0 := by
  rw [ofScript, pushAll_eq]

lemma serves_ofScript (script : List Cue) :
    Serves (ofScript script) (ofScript script).queue [] := by
  rw [Serves, ofScript, pushAll_eq]
  refine ⟨rfl, rfl, Cue.sortedFrom_of_sorted (sorted_pushAll List.Pairwise.nil) ?_⟩
  intro cue _
  exact Nat.zero_le _

lemma queue_ofScript (h : Cue.Sorted script) : (ofScript script).queue = script :=
  queue_pushAll (s := {}) h

end Rehearsal

/-- A run with a new arbiter on the lines of a script. -/
def Run.ofScript (config : Config) (script : List Cue) : Run Rehearsal :=
  ⟨Rehearsal.ofScript script, Session.new config⟩

/-- A run on a rehearsal comes to its end. -/
lemma Run.endsIn_ofScript (config : Config) (script : List Cue) :
    ∃ final, EndsIn Rehearsal.Serves (Run.ofScript config script) (Rehearsal.ofScript script).queue
      [] final := by
  refine Rehearsal.timely.endsIn (Rehearsal.serves_ofScript script) ?_
  intro d hd
  cases hd

/-- A rehearsal keeps to the agenda of its script, and records what its journal says. -/
theorem Run.rehearse (config : Config) (script : List Cue) :
    let r := Run.ofScript config script
    ∃ final, r.run = (.ok (), final) ∧
      Agenda (Session.new config) (Rehearsal.ofScript script).queue r.journal final.session ∧
      final.channel.emissions = r.journal.flatMap Entry.emissions ∧
      final.channel.clock = r.journal.foldl (fun _ e => e.time) 0 := by
  intro r
  obtain ⟨final, h⟩ := Run.endsIn_ofScript config script
  refine ⟨final, h.run, h.agenda, h.served.2.1, h.clock.trans ?_⟩
  exact congrArg (r.journal.foldl _) (Rehearsal.clock_ofScript script)

end LightArbiter
