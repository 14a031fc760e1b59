import LightArbiter.Proofs.Agenda

/-!
# Isolation of bad lines

A line that comes to nothing wakes the session and lets its time pass, but it changes neither what
is written nor when. So a script can do without it: with lines struck out that come to nothing, the
same groups are written at the same times, and the same arbiter is left.
-/

namespace LightArbiter

/-- The lines of a script without those whose numbers are struck out. -/
def strikeOut (struck : Nat → Bool) : List Cue → List Cue
  | [] => []
  | cue :: cues =>
    if struck 0 then strikeOut (fun i => struck (i + 1)) cues
    else cue :: strikeOut (fun i => struck (i + 1)) cues

lemma strikeOut_sublist (struck : Nat → Bool) (cues : List Cue) :
    (strikeOut struck cues).Sublist cues := by
  induction cues generalizing struck with
  | nil => exact List.Sublist.slnil
  | cons cue cues ih =>
    rw [strikeOut]
    split_ifs
    · exact (ih _).cons cue
    · exact (ih _).cons_cons cue

/-- The entries of a journal that are lines. -/
def linesOf (entries : List Entry) : List Entry :=
  entries.filter fun e => e.cue?.isSome

/-- Do all struck lines come to nothing? -/
def StrikesVain (struck : Nat → Bool) (lines : List Entry) : Prop :=
  ∀ i e, lines[i]? = some e → struck i = true → e.Vain

lemma StrikesVain.tail {struck : Nat → Bool} {e : Entry} {lines : List Entry}
    (h : StrikesVain struck (e :: lines)) : StrikesVain (fun i => struck (i + 1)) lines :=
  fun i f hf => h (i + 1) f (by simpa using hf)

lemma due_strikeOut {struck : Nat → Bool} {cues : List Cue} {d : Time} (hsorted : Cue.Sorted cues)
    (hdue : ∀ cue ∈ cues.head?, d ≤ cue.time) :
    ∀ cue ∈ (strikeOut struck cues).head?, d ≤ cue.time := by
  intro cue hcue
  have hmem : cue ∈ cues := (strikeOut_sublist struck cues).mem (List.mem_of_mem_head? hcue)
  cases cues with
  | nil => cases hmem
  | cons first cues =>
    have hfirst : d ≤ first.time := hdue first rfl
    rcases List.mem_cons.mp hmem with rfl | hmem
    · exact hfirst
    · exact hfirst.trans ((List.pairwise_cons.mp hsorted).1 cue hmem)

/-- Two agendas from the same arbiter, one of them without some lines that come to nothing in the
other, write the same and leave the same arbiter. -/
lemma Agenda.strikeOut {s t : Session} {cues : List Cue} {entries : List Entry}
    (h : Agenda s cues entries t) {struck : Nat → Bool} {s' t' : Session} {entries' : List Entry}
    (h' : Agenda s' (strikeOut struck cues) entries' t') (hsame : s'.arbiter = s.arbiter)
    (hsorted : Cue.Sorted cues) (hvain : StrikesVain struck (linesOf entries)) :
    entries'.flatMap Entry.emissions = entries.flatMap Entry.emissions ∧
      t'.arbiter = t.arbiter := by
  induction h generalizing struck s' entries' with
  | close hidle =>
    obtain ⟨rfl, rfl⟩ := h'.of_idle (hsame ▸ hidle)
    exact ⟨rfl, hsame⟩
  | @expire s t cues entries d hpending hdue _ ih =>
    obtain ⟨rest', rfl, hrest'⟩ := h'.of_due (hsame ▸ hpending) (due_strikeOut hsorted hdue)
    obtain ⟨hnext, hwrites⟩ :=
      Entry.congr (e := ⟨s', d, .deadline⟩) (f := ⟨s, d, .deadline⟩) hsame rfl rfl
    obtain ⟨hrest, hfinal⟩ := ih hrest' hnext hsorted hvain
    exact ⟨by rw [List.flatMap_cons, List.flatMap_cons, hwrites, hrest], hfinal⟩
  | @line s t cue cues entries hearly _ ih =>
    have hcues : Cue.Sorted cues := (List.pairwise_cons.mp hsorted).2
    have htail : StrikesVain (fun i => struck (i + 1)) (linesOf entries) :=
      hvain.tail (e := ⟨s, cue.time, .line cue.line⟩)
    rw [LightArbiter.strikeOut] at h'
    split_ifs at h' with hstruck
    -- A line that is struck out comes in the first agenda only, and nothing comes of it.
    · obtain ⟨hnext, hquiet⟩ := (hvain 0 ⟨s, cue.time, .line cue.line⟩ rfl hstruck).spec hearly
      obtain ⟨hrest, hfinal⟩ := ih h' (hsame.trans hnext.symm) hcues htail
      exact ⟨by rw [List.flatMap_cons, hquiet, List.nil_append, hrest], hfinal⟩
    · have hearly' : Entry.Early ⟨s', cue.time, .line cue.line⟩ := by
        intro d hd
        exact hearly d ((congrArg Arbiter.deadline hsame).symm.trans hd)
      obtain ⟨rest', rfl, hrest'⟩ := h'.of_early hearly'
      obtain ⟨hnext, hwrites⟩ := Entry.congr (e := ⟨s', cue.time, .line cue.line⟩)
        (f := ⟨s, cue.time, .line cue.line⟩) hsame rfl rfl
      obtain ⟨hrest, hfinal⟩ := ih hrest' hnext hcues htail
      exact ⟨by rw [List.flatMap_cons, List.flatMap_cons, hwrites, hrest], hfinal⟩

/--
In a rehearsal of a script in order, whose journal has all its lines, those that come to nothing can
be struck out, any of them: the same groups are then recorded at the same times, and the same
arbiter is left.
-/
theorem emissions_strikeOut (config : Config) (script : List Cue) (struck : Nat → Bool)
    (hsorted : Cue.Sorted script)
    (hvain : StrikesVain struck (linesOf (Run.ofScript config script).journal)) :
    let r := Run.ofScript config script
    let r' := Run.ofScript config (strikeOut struck script)
    r.journal.filterMap Entry.cue? = script ∧
      r'.run.2.channel.emissions = r.run.2.channel.emissions ∧
      r'.run.2.session.arbiter = r.run.2.session.arbiter := by
  intro r r'
  obtain ⟨final, hrun, hagenda, hrecorded, -⟩ := Run.rehearse config script
  obtain ⟨final', hrun', hagenda', hrecorded', -⟩ := Run.rehearse config (strikeOut struck script)
  rw [Rehearsal.queue_ofScript hsorted] at hagenda
  rw [Rehearsal.queue_ofScript (hsorted.sublist (strikeOut_sublist struck script))] at hagenda'
  obtain ⟨hwrites, harbiter⟩ := hagenda.strikeOut hagenda' rfl hsorted hvain
  rw [show r.run = (.ok (), final) from hrun, show r'.run = (.ok (), final') from hrun']
  exact ⟨hagenda.cues_eq, by rw [hrecorded, hrecorded', hwrites], harbiter⟩

/-- Somebody passes through the hallway, and three bad lines come, two of them during the window. -/
def passage : List Cue :=
  [⟨0, "sensor_occupied hallway true"⟩, ⟨500, "hello"⟩, ⟨1000, "sensor_occupied hallway false"⟩,
    ⟨2000, "user3 nobody"⟩, ⟨3000, " "⟩]

/-- The numbers of the bad lines. -/
def badLines (i : Nat) : Bool := i = 1 || i = 3 || i = 4

lemma strikesVain_passage : StrikesVain badLines (linesOf (Run.ofScript {} passage).journal) ∧
    (Run.ofScript {} passage).run.2.channel.emissions.map Emission.time = [0, 4000] := by
  obtain ⟨final, hrun, h, hrecorded, -⟩ := Run.rehearse {} passage
  rw [Rehearsal.queue_ofScript (by decide)] at h
  obtain ⟨_, hjournal, h₁⟩ := h.of_early (by intro d hd; cases hd)
  obtain ⟨_, rfl, h₂⟩ := h₁.of_early (by intro d hd; cases hd)
  obtain ⟨_, rfl, h₃⟩ := h₂.of_early (by intro d hd; cases hd)
  obtain ⟨_, rfl, h₄⟩ := h₃.of_early (by intro d hd; cases hd; decide)
  obtain ⟨_, rfl, h₅⟩ := h₄.of_early (by intro d hd; cases hd; decide)
  obtain ⟨_, rfl, h₆⟩ := h₅.of_due (d := 4000) rfl (by simp)
  obtain ⟨rfl, -⟩ := h₆.of_idle rfl
  rw [hrun, hrecorded, hjournal]
  refine ⟨fun i e hi hstruck => ?_, rfl⟩
  match i with
  | 0 => cases hstruck
  | 1 =>
    cases hi
    exact .unparsable rfl rfl
  | 2 => cases hstruck
  | 3 =>
    cases hi
    exact .refused ⟨_, rfl, rfl⟩ rfl
  | 4 =>
    cases hi
    exact .blank rfl rfl
  | i + 5 => cases hi

/-- The light is dimmed when the hallway is entered, and goes out a window after it is left, with
the bad lines and without them. -/
theorem emissions_strikeOut_passage :
    Cue.Sorted passage ∧ StrikesVain badLines (linesOf (Run.ofScript {} passage).journal) ∧
      (Run.ofScript {} passage).run.2.channel.emissions.map Emission.time = [0, 4000] ∧
      (Run.ofScript {} (strikeOut badLines passage)).run.2.channel.emissions =
        (Run.ofScript {} passage).run.2.channel.emissions := by
  obtain ⟨hvain, htimes⟩ := strikesVain_passage
  exact ⟨by decide, hvain, htimes,
    (emissions_strikeOut {} passage badLines (by decide) hvain).2.1⟩

end LightArbiter
