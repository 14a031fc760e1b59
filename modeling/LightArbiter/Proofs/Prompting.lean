import LightArbiter.Proofs.Agenda

/-!
# Requests to a rehearsal

A rehearsal may be asked for anything at any time: lines are cued late or out of order, input is
waited for with deadlines that have passed or without one, groups are written in between. Still its
clock never goes back, no line is lost, brought twice or out of order, and every answer to a request
for input is the one that its time and its deadline call for.
-/

namespace LightArbiter

/-- The text of the line that has come. -/
def Input.text? : Input → Option String
  | line text => some text
  | deadline => none
  | closed => none

namespace Rehearsal

/-! ### Requests -/

/-- What a rehearsal is asked for. A deadline may lie before the start. -/
inductive Request where
  | push (time : Time) (line : String)
  | receive (deadline : Option Int)
  | emit (group : Group)

variable {s s' : Rehearsal} {deadline : Option Int} {input : Input}

/-- The line that the request cues. -/
def Request.line? : Request → Option String
  | push _ line => some line
  | receive _ => none
  | emit _ => none

/-- The group that the request writes. -/
def Request.group? : Request → Option Group
  | push _ _ => none
  | receive _ => none
  | emit group => some group

/-- Take the next line or jump to the deadline. One before the start has passed at the start. -/
def receiveBy (s : Rehearsal) (deadline : Option Int) : Input × Rehearsal :=
  s.receive (deadline.map Int.toNat)

/-- The rehearsal after a request. -/
def after (s : Rehearsal) : Request → Rehearsal
  | .push time line => s.push time line
  | .receive deadline => (s.receiveBy deadline).2
  | .emit group => s.emit group

/-- The line that a request brings. -/
def brings? (s : Rehearsal) : Request → Option String
  | .push _ _ => none
  | .receive deadline => (s.receiveBy deadline).1.text?
  | .emit _ => none

/-- The rehearsal after requests. -/
def perform (s : Rehearsal) (requests : List Request) : Rehearsal :=
  requests.foldl after s

/-- The lines that requests bring, one after the other. -/
def brought (s : Rehearsal) : List Request → List String
  | [] => []
  | request :: requests => (s.brings? request).toList ++ (s.after request).brought requests

/-- The groups that requests write, each with the time at which it is written. -/
def stamped (s : Rehearsal) : List Request → List Emission
  | [] => []
  | request :: requests =>
    (request.group?.map (Emission.mk s.clock)).toList ++ (s.after request).stamped requests

lemma brought_append (requests later : List Request) :
    s.brought (requests ++ later) = s.brought requests ++ (s.perform requests).brought later := by
  induction requests generalizing s with
  | nil => rfl
  | cons request requests ih =>
    rw [List.cons_append, brought, ih, brought, List.append_assoc]
    rfl

/-! ### What input is brought -/

/-- The answers to a request for input, and the rehearsal that each of them leaves. -/
inductive Brings (s : Rehearsal) : Option Int → Input → Rehearsal → Prop where
  | line {deadline : Option Int} {cue : Cue} {queue : List Cue} (first : s.queue = cue :: queue)
      (early : ∀ d, deadline = some d → (cue.time : Int) < d) :
      Brings s deadline (.line cue.line) ({ s with queue := queue }.advance cue.time)
  | deadline {d : Int} (due : ∀ cue ∈ s.queue.head?, d ≤ cue.time) :
      Brings s (some d) .deadline (s.advance d.toNat)
  | closed (drained : s.queue = []) : Brings s none .closed s

lemma receiveBy_of_due {d : Int} (h : ∀ cue ∈ s.queue.head?, d ≤ cue.time) :
    s.receiveBy (some d) = (.deadline, s.advance d.toNat) := by
  rw [receiveBy, Option.map_some, receive]
  cases hfirst : s.queue.head? with
  | none => rfl
  | some cue => exact if_pos (Int.toNat_le.mpr (h cue hfirst))

lemma receiveBy_of_early {cue : Cue} {queue : List Cue} (hqueue : s.queue = cue :: queue)
    (h : ∀ d, deadline = some d → (cue.time : Int) < d) :
    s.receiveBy deadline = (.line cue.line, { s with queue := queue }.advance cue.time) := by
  have htake : s.takeLine = (.line cue.line, { s with queue := queue }.advance cue.time) := by
    rw [takeLine, hqueue]
  cases deadline with
  | none => exact htake
  | some d =>
    have hearly : ¬d.toNat ≤ cue.time := mt Int.toNat_le.mp (Int.not_le.mpr (h d rfl))
    rw [← htake, receiveBy, Option.map_some, receive, hqueue]
    exact if_neg hearly

lemma receiveBy_of_drained (h : s.queue = []) : s.receiveBy none = (.closed, s) := by
  rw [receiveBy, Option.map_none, receive, takeLine, h]

lemma brings_receiveBy (s : Rehearsal) (deadline : Option Int) :
    s.Brings deadline (s.receiveBy deadline).1 (s.receiveBy deadline).2 := by
  cases deadline with
  | none =>
    cases hqueue : s.queue with
    | nil =>
      rw [receiveBy_of_drained hqueue]
      exact .closed hqueue
    | cons cue queue =>
      have hearly : ∀ d, none = some d → (cue.time : Int) < d := by simp
      rw [receiveBy_of_early hqueue hearly]
      exact .line hqueue hearly
  | some d =>
    by_cases hdue : ∀ cue ∈ s.queue.head?, d ≤ cue.time
    · rw [receiveBy_of_due hdue]
      exact .deadline hdue
    · cases hqueue : s.queue with
      | nil => simp [hqueue] at hdue
      | cons cue queue =>
        have hearly : ∀ d', some d = some d' → (cue.time : Int) < d' := by
          rintro _ ⟨⟩
          simpa [hqueue] using hdue
        rw [receiveBy_of_early hqueue hearly]
        exact .line hqueue hearly

lemma Brings.le_clock (h : s.Brings deadline input s') : s.clock ≤ s'.clock := by
  cases h with
  | line | deadline => exact Nat.le_max_left ..
  | closed => exact Nat.le_refl _

lemma Brings.queue_suffix (h : s.Brings deadline input s') : s'.queue <:+ s.queue := by
  cases h with
  | line hfirst _ =>
    rw [hfirst]
    exact List.suffix_cons ..
  | deadline | closed => exact List.suffix_refl _

lemma Brings.emissions_eq (h : s.Brings deadline input s') : s'.emissions = s.emissions := by
  cases h <;> rfl

/-- A line is taken from the queue exactly if it is brought. -/
lemma Brings.lines_eq (h : s.Brings deadline input s') :
    input.text?.toList ++ s'.queue.map Cue.line = s.queue.map Cue.line := by
  cases h with
  | line hfirst _ => simp [hfirst, Input.text?, advance]
  | deadline | closed => rfl

/-! ### What a request changes -/

lemma clock_le_after (s : Rehearsal) (request : Request) : s.clock ≤ (s.after request).clock := by
  cases request with
  | push | emit => exact Nat.le_refl _
  | receive deadline => exact (s.brings_receiveBy deadline).le_clock

lemma clock_le_perform (requests : List Request) : s.clock ≤ (s.perform requests).clock := by
  induction requests generalizing s with
  | nil => exact Nat.le_refl _
  | cons request requests ih => exact (s.clock_le_after request).trans ih

/-- A line is cued behind all others, at its time or at that of the last of them. -/
lemma exists_cue_push (s : Rehearsal) (time : Time) (line : String) :
    ∃ cue, s.push time line = { s with queue := s.queue ++ [cue] } ∧ cue.line = line ∧
      time ≤ cue.time ∧ (∀ last ∈ s.queue.getLast?, last.time ≤ cue.time) ∧
      (cue.time = time ∨ ∃ last ∈ s.queue.getLast?, cue.time = last.time) := by
  refine ⟨_, rfl, rfl, ?_⟩
  cases s.queue.getLast? with
  | none => simp
  | some last => simpa using Nat.le_total ..

/-- What is brought and what is then in the queue is what was in the queue and what is cued. -/
lemma lines_after (s : Rehearsal) (request : Request) :
    (s.brings? request).toList ++ (s.after request).queue.map Cue.line =
      s.queue.map Cue.line ++ request.line?.toList := by
  cases request with
  | push time line => simp [brings?, after, push, Request.line?]
  | emit group => simp [brings?, after, emit, Request.line?]
  | receive deadline =>
    rw [Request.line?, Option.toList_none, List.append_nil]
    exact (s.brings_receiveBy deadline).lines_eq

lemma lines_perform (requests : List Request) :
    s.brought requests ++ (s.perform requests).queue.map Cue.line =
      s.queue.map Cue.line ++ requests.filterMap Request.line? := by
  induction requests generalizing s with
  | nil => simp [brought, perform]
  | cons request requests ih =>
    calc s.brought (request :: requests) ++ (s.perform (request :: requests)).queue.map Cue.line
        = (s.brings? request).toList ++ ((s.after request).brought requests ++
            ((s.after request).perform requests).queue.map Cue.line) := List.append_assoc ..
      _ = s.queue.map Cue.line ++ (request.line?.toList ++ requests.filterMap Request.line?) := by
        rw [ih, ← List.append_assoc, lines_after, List.append_assoc]
      _ = s.queue.map Cue.line ++ (request :: requests).filterMap Request.line? := by
        rw [List.filterMap_cons]
        cases request.line? <;> rfl

/-- Whoever asks without a deadline gets the next line, as long as there is one. -/
lemma brought_replicate (n : Nat) :
    s.brought (List.replicate n (.receive none)) = (s.queue.map Cue.line).take n := by
  induction n generalizing s with
  | zero => rfl
  | succ n ih =>
    rw [List.replicate_succ, brought, ih, brings?, after]
    cases hqueue : s.queue with
    | nil => simp [receiveBy_of_drained hqueue, hqueue, Input.text?]
    | cons cue queue =>
      rw [receiveBy_of_early hqueue (by simp)]
      rfl

lemma emissions_after (s : Rehearsal) (request : Request) :
    (s.after request).emissions =
      s.emissions ++ (request.group?.map (Emission.mk s.clock)).toList := by
  cases request with
  | push time line => exact (List.append_nil _).symm
  | receive deadline =>
    exact (s.brings_receiveBy deadline).emissions_eq.trans (List.append_nil _).symm
  | emit group => rfl

lemma emissions_perform (requests : List Request) :
    (s.perform requests).emissions = s.emissions ++ s.stamped requests := by
  induction requests generalizing s with
  | nil => exact (List.append_nil _).symm
  | cons request requests ih =>
    calc ((s.after request).perform requests).emissions
        = (s.after request).emissions ++ (s.after request).stamped requests := ih
      _ = s.emissions ++ s.stamped (request :: requests) := by
        rw [emissions_after, List.append_assoc, stamped]

/-! ### What is in order -/

/-- Are the lines in the queue and the groups in the record in the order of their times? -/
structure InOrder (s : Rehearsal) : Prop where
  queue : Cue.Sorted s.queue
  emissions : s.emissions.Pairwise fun e later => e.time ≤ later.time
  past : ∀ e ∈ s.emissions, e.time ≤ s.clock

lemma Brings.inOrder (h : s.Brings deadline input s') (hs : s.InOrder) : s'.InOrder where
  queue := hs.queue.sublist h.queue_suffix.sublist
  emissions := by
    rw [h.emissions_eq]
    exact hs.emissions
  past := by
    rw [h.emissions_eq]
    exact fun e he => (hs.past e he).trans h.le_clock

lemma InOrder.emit (h : s.InOrder) (group : Group) : (s.emit group).InOrder where
  queue := h.queue
  emissions := List.pairwise_append.mpr
    ⟨h.emissions, List.pairwise_singleton _ _, fun e he new hnew => by
      rw [List.mem_singleton.mp hnew]
      exact h.past e he⟩
  past := by
    intro e he
    rcases List.mem_append.mp he with he | he
    · exact h.past e he
    · rw [List.mem_singleton.mp he]
      exact Nat.le_refl _

lemma InOrder.after (h : s.InOrder) (request : Request) : (s.after request).InOrder := by
  cases request with
  | push time line => exact ⟨sorted_push h.queue, h.emissions, h.past⟩
  | receive deadline => exact (s.brings_receiveBy deadline).inOrder h
  | emit group => exact h.emit group

lemma InOrder.perform (h : s.InOrder) (requests : List Request) : (s.perform requests).InOrder := by
  induction requests generalizing s with
  | nil => exact h
  | cons request requests ih => exact ih (h.after request)

lemma inOrder_new : ({} : Rehearsal).InOrder where
  queue := List.Pairwise.nil
  emissions := List.Pairwise.nil
  past := by simp

/-! ### All requests -/

/-- In a queue in order, nothing comes before a time that the first line does not come before. -/
lemma le_time_of_mem_queue {d : Int} {cue : Cue} (hsorted : Cue.Sorted s.queue)
    (hfirst : ∀ first ∈ s.queue.head?, d ≤ first.time) (h : cue ∈ s.queue) : d ≤ cue.time := by
  cases hqueue : s.queue with
  | nil => simp [hqueue] at h
  | cons first queue =>
    have hd : d ≤ first.time := hfirst first (by rw [hqueue]; rfl)
    rw [hqueue] at h hsorted
    rcases List.mem_cons.mp h with rfl | h
    · exact hd
    · exact hd.trans (Int.ofNat_le.mpr (List.rel_of_pairwise_cons hsorted h))

/-- What an answer to a request for input tells of its deadline, and what it does. -/
lemma Brings.spec (h : s.Brings deadline input s') (hsorted : Cue.Sorted s.queue) :
    (∀ text, input = .line text → ∃ cue, s.queue = cue :: s'.queue ∧ cue.line = text ∧
      (∀ d, deadline = some d → (cue.time : Int) < d) ∧ s'.clock = max s.clock cue.time) ∧
    (input = .deadline → ∃ d, deadline = some d ∧ (s'.clock : Int) = max (s.clock : Int) d ∧
      s'.queue = s.queue ∧ ∀ cue ∈ s.queue, d ≤ cue.time) ∧
    (input = .closed → deadline = none ∧ s.queue = [] ∧ s' = s) := by
  refine ⟨?_, ?_, ?_⟩
  · rintro text rfl
    cases h with
    | line hfirst hearly => exact ⟨_, hfirst, rfl, hearly, rfl⟩
  · rintro rfl
    cases h with
    | @deadline d hdue =>
      refine ⟨d, rfl, ?_, rfl, fun cue => le_time_of_mem_queue hsorted hdue⟩
      show ((max s.clock d.toNat : Nat) : Int) = max (s.clock : Int) d
      omega
  · rintro rfl
    cases h with
    | closed hdrained => exact ⟨rfl, hdrained, rfl⟩

/--
A new rehearsal has been asked for anything any number of times. Whatever it is asked for next, its
clock does not go back. Every group has been recorded with the time at which it was written, and
these times never decrease. The lines that were brought and those in the queue are the lines that
were cued, in order, and whoever goes on asking without a deadline gets the rest of them. A line
that is cued next comes at its time, or at that of the last line in the queue if this is later.

If input is asked for next then a line comes only if it is the first in the queue and its time is
before the deadline, and the clock is then at this time unless it has passed it already. The
deadline is reported only if no line in the queue comes before it, and the clock is then at the
deadline unless it has passed it already. Only without a deadline and with an empty queue is the
rehearsal closed, and then it stays as it is.
-/
theorem answers_in_order (requests : List Request) :
    let new : Rehearsal := {}
    let s := new.perform requests
    let cued := requests.filterMap Request.line?
    (∀ later, s.clock ≤ (s.perform later).clock) ∧
    s.emissions = new.stamped requests ∧
    (s.emissions.Pairwise fun e later => e.time ≤ later.time) ∧
    new.brought requests ++ s.queue.map Cue.line = cued ∧
    (∀ n, s.queue.length ≤ n →
      new.brought (requests ++ List.replicate n (.receive none)) = cued) ∧
    (∀ time line, ∃ cue, s.push time line = { s with queue := s.queue ++ [cue] } ∧
      cue.line = line ∧ time ≤ cue.time ∧ (∀ last ∈ s.queue.getLast?, last.time ≤ cue.time) ∧
      (cue.time = time ∨ ∃ last ∈ s.queue.getLast?, cue.time = last.time)) ∧
    ∀ deadline,
      let input := (s.receiveBy deadline).1
      let s' := (s.receiveBy deadline).2
      s'.emissions = s.emissions ∧
      (∀ text, input = .line text → ∃ cue, s.queue = cue :: s'.queue ∧ cue.line = text ∧
        (∀ d, deadline = some d → (cue.time : Int) < d) ∧ s'.clock = max s.clock cue.time) ∧
      (input = .deadline → ∃ d, deadline = some d ∧ (s'.clock : Int) = max (s.clock : Int) d ∧
        s'.queue = s.queue ∧ ∀ cue ∈ s.queue, d ≤ cue.time) ∧
      (input = .closed → deadline = none ∧ s.queue = [] ∧ s' = s) := by
  intro new s cued
  have horder : s.InOrder := inOrder_new.perform requests
  have hlines : new.brought requests ++ s.queue.map Cue.line = cued := lines_perform requests
  refine ⟨clock_le_perform, emissions_perform requests, horder.emissions, hlines, fun n hn => ?_,
    s.exists_cue_push, fun deadline => ?_⟩
  · have hlength : (s.queue.map Cue.line).length ≤ n := by rwa [List.length_map]
    rw [brought_append, brought_replicate, List.take_of_length_le hlength]
    exact hlines
  · have hbrings := s.brings_receiveBy deadline
    exact ⟨hbrings.emissions_eq, hbrings.spec horder.queue⟩

-- Two lines are cued for times that have passed, one of them before a deadline that has passed too.
example :
    let requests : List Request := [.push 5 "a", .push 1 "b", .receive (some (-2)),
      .receive (some 5), .receive none, .receive (some 6), .push 2 "c", .receive (some 4)]
    let s := ({} : Rehearsal).perform requests
    ({} : Rehearsal).brought requests = ["a", "b", "c"] ∧ s.queue = [] ∧ s.clock = 5 := by
  decide

end Rehearsal

end LightArbiter
