import LightArbiter.Proofs.Agenda
import LightArbiter.Proofs.Collation
import LightArbiter.Wire

/-!
# Delivery over a wire

A script can be sent over a wire: the bytes of each line and a newline come at the time of the line,
and then the source ends. A rehearsal compares times in a queue, while a wire waits for bytes and may
be interrupted at that, but both bring the same lines at the same times and see the same windows end.
The wire takes a carriage return off the end of a line, which makes no difference to what the line
says. So a session does the same on both.
-/

namespace LightArbiter

/-! ### Lines without a carriage return -/

/-- The characters without a carriage return at their end. -/
def dropReturn (cs : List Char) : List Char :=
  if cs.getLast? = some '\r' then cs.dropLast else cs

/-- The line without a carriage return at its end. -/
def withoutReturn (line : String) : String :=
  String.ofList (dropReturn line.toList)

lemma Text.trim_dropReturn (cs : List Char) : Text.trim (dropReturn cs) = Text.trim cs := by
  rw [dropReturn]
  split_ifs with hlast
  · conv_rhs => rw [← List.dropLast_append_getLast? _ hlast]
    generalize cs.dropLast = front
    have hreturn : isBlank '\r' = true := by decide
    -- The carriage return goes from the start if there are only blanks before it.
    rw [trim, trim, trimStart, trimStart, List.dropWhile_append]
    split_ifs with hfront
    · rw [List.isEmpty_iff.mp hfront]
      simp [hreturn]
    · simp [trimEnd, hreturn]
  · rfl

lemma Session.takeLine_withoutReturn (s : Session) (now : Time) (line : String) :
    s.takeLine now (withoutReturn line) = s.takeLine now line := by
  have htrim : Text.trim (withoutReturn line).toList = Text.trim line.toList := by
    rw [withoutReturn, String.toList_ofList, Text.trim_dropReturn]
  have hblank : isBlankLine (withoutReturn line) = isBlankLine line := by
    rw [isBlankLine, isBlankLine, htrim]
  have hcommand : Command.ofLine (withoutReturn line) = Command.ofLine line := by
    simp only [Command.ofLine, Command.ofChars, htrim]
  simp only [takeLine, obey, hblank, hcommand]

/-- The line as it comes from a wire. -/
def Cue.onWire (cue : Cue) : Cue :=
  { cue with line := withoutReturn cue.line }

/-- The entry with its line as it comes from a wire. -/
def Entry.onWire (e : Entry) : Entry :=
  match e.input with
  | .line text => { e with input := .line (withoutReturn text) }
  | .deadline => e
  | .closed => e

lemma Entry.result_onWire (e : Entry) : e.onWire.time = e.time ∧ e.onWire.result = e.result := by
  obtain ⟨s, now, input⟩ := e
  cases input with
  | line text => exact ⟨rfl, s.takeLine_withoutReturn now text⟩
  | deadline => exact ⟨rfl, rfl⟩
  | closed => exact ⟨rfl, rfl⟩

@[simp] lemma Entry.time_onWire (e : Entry) : e.onWire.time = e.time := e.result_onWire.1

@[simp] lemma Entry.emissions_onWire (e : Entry) : e.onWire.emissions = e.emissions := by
  rw [emissions, emissions, e.result_onWire.2, e.time_onWire]

lemma Entry.next_onWire (e : Entry) : e.onWire.next = e.next := by
  rw [next, next, e.result_onWire.2]

lemma Agenda.onWire {s t : Session} {cues : List Cue} {entries : List Entry}
    (h : Agenda s cues entries t) :
    Agenda s (cues.map Cue.onWire) (entries.map Entry.onWire) t := by
  induction h with
  | close hidle => exact .close hidle
  | expire hpending hdue _ ih =>
    refine .expire hpending (fun cue hcue => ?_) ih
    rw [List.head?_map, Option.mem_map] at hcue
    obtain ⟨sent, hsent, rfl⟩ := hcue
    exact hdue sent hsent
  | @line s t cue cues entries hearly _ ih =>
    rw [← Entry.next_onWire ⟨s, cue.time, .line cue.line⟩] at ih
    rw [List.map_cons, List.map_cons]
    exact .line hearly ih

/-! ### Bytes of lines -/

lemma textOfBytes?_encode (cs : List Char) :
    textOfBytes? (cs.flatMap String.utf8EncodeChar) = some (String.ofList cs) := by
  have hvalid : (cs.flatMap String.utf8EncodeChar).toByteArray.IsValidUTF8 :=
    ByteArray.isValidUTF8_utf8Encode
  rw [textOfBytes?, String.fromUTF8?, dif_pos hvalid, Option.some.injEq, ← String.toByteArray_inj,
    String.toByteArray_ofList]
  rfl

/-- A byte below 128 stands for the character of that code and is no part of another. -/
lemma toNat_of_mem_encode {c : Char} {b : UInt8} (h : b ∈ String.utf8EncodeChar c)
    (hb : b.toNat < 128) : c.toNat = b.toNat := by
  have hc : c.toNat = c.val.toNat := rfl
  unfold String.utf8EncodeChar at h
  simp only at h
  split_ifs at h with h₁ h₂ h₃
  · rw [List.mem_singleton.mp h, UInt8.toNat_ofNat', hc]
    omega
  all_goals
    simp only [List.mem_cons, List.not_mem_nil, or_false] at h
    rcases h with rfl | rfl | rfl | rfl <;> simp only [UInt8.toNat_ofNat'] at hb <;> omega

lemma newline_notMem_bytesOf {line : String} (h : '\n' ∉ line.toList) :
    newline ∉ bytesOf line := by
  intro hmem
  rw [bytesOf_eq, List.mem_flatMap] at hmem
  obtain ⟨c, hc, hnewline⟩ := hmem
  have hcode : c.toNat = 10 := toNat_of_mem_encode hnewline (by decide)
  exact h ((Char.toNat_inj (d := '\n')).mp hcode ▸ hc)

lemma dropByte_cons_self (b : UInt8) (bytes : List UInt8) : dropByte b (b :: bytes) = bytes := by
  simp [dropByte]

lemma dropByte_of_ne {b : UInt8} {bytes : List UInt8} (h : bytes.head? ≠ some b) :
    dropByte b bytes = bytes := by
  cases bytes with
  | nil => rfl
  | cons c bytes => exact if_neg fun hc => h (congrArg some hc)

lemma getLast?_encode_ne {cs : List Char} (h : cs.getLast? ≠ some '\r') :
    (cs.flatMap String.utf8EncodeChar).getLast? ≠ some carriageReturn := by
  rcases List.eq_nil_or_concat cs with rfl | ⟨front, c, rfl⟩
  · simp
  · intro hlast
    have hne : String.utf8EncodeChar c ≠ [] := String.utf8EncodeChar_ne_nil
    rw [List.concat_eq_append, List.flatMap_append, List.flatMap_singleton,
      List.getLast?_append_of_ne_nil _ hne] at hlast
    have hcode : c.toNat = 13 := toNat_of_mem_encode (List.mem_of_getLast? hlast) (by decide)
    have hc : c = '\r' := (Char.toNat_inj (d := '\r')).mp hcode
    exact h (by simp [hc])

/-- A carriage return comes off the bytes of a line as it comes off the line. -/
lemma dropByte_bytesOf (line : String) :
    (dropByte carriageReturn (bytesOf line).reverse).reverse =
      (dropReturn line.toList).flatMap String.utf8EncodeChar := by
  rw [bytesOf_eq, dropReturn]
  split_ifs with hlast
  · rw [← List.dropLast_append_getLast? _ hlast, List.dropLast_concat, List.flatMap_append,
      List.reverse_append, List.flatMap_singleton]
    exact List.reverse_reverse _
  · rw [dropByte_of_ne, List.reverse_reverse]
    rw [List.head?_reverse]
    exact getLast?_encode_ne hlast

/-- The bytes of a line and a newline are read as the line. -/
lemma lineOfBuffer?_bytesOf (line : String) :
    lineOfBuffer? (newline :: (bytesOf line).reverse) = some (withoutReturn line) := by
  rw [lineOfBuffer?, dropByte_cons_self, dropByte_bytesOf, textOfBytes?_encode, withoutReturn]

/-! ### Scripts on a wire -/

/-- The signals from a time on of a source that sends each line at its time, with a newline after
it. -/
def signals (now : Time) : List Cue → List Signal
  | [] => []
  | cue :: cues =>
    .pause (cue.time - now) ::
      ((bytesOf cue.line).map .byte ++ .byte newline :: signals cue.time cues)

/-- A sink that emissions have been written to, each of them rendered and flushed. -/
def sinkOf (log : List Emission) : Sink :=
  { written := log.map fun emission => Directive.render emission.group, flushes := log.length }

lemma sinkOf_put (log : List Emission) (now : Time) (group : Group) :
    (sinkOf log).put (Directive.render group) = (.ok (), sinkOf (log ++ [⟨now, group⟩])) := by
  simp [Sink.put, sinkOf]

namespace Wire

variable {w : Wire} {script : List Cue} {log : List Emission} {deadline : Option Time} {d : Time}
  {bytes : List UInt8} {rest : List Signal} {text : String} {fresh : Bool}

lemma isDue_eq_false : w.isDue deadline = false ↔ ∀ d, deadline = some d → w.clock < d := by
  cases deadline <;> simp [isDue]

lemma receive_of_early (hended : w.ended = false)
    (hearly : ∀ d, deadline = some d → w.clock < d) :
    w.receive deadline = w.poll deadline false w.source := by
  simp [receive, hended, isDue_eq_false.mpr hearly]

lemma receive_now (w : Wire) : w.receive (some w.clock) = (.ok .deadline, w) := by
  simp [receive, isDue, bring, drain]

lemma poll_pause {duration : Time} (h : ∀ d, deadline = some d → w.clock + duration < d) :
    poll deadline w fresh (.pause duration :: rest) =
      poll deadline { w with clock := w.clock + duration } fresh rest := by
  cases deadline with
  | none => rfl
  | some d => exact if_neg (Nat.not_le.mpr (h d rfl))

lemma poll_bytes (hbytes : newline ∉ bytes)
    (htext : lineOfBuffer? (newline :: (bytes.reverse ++ w.buffer)) = some text) :
    poll deadline w fresh (bytes.map .byte ++ .byte newline :: rest) =
      (.ok (.line text), { w.clear with source := rest }) := by
  -- Each byte moves from the signals to the front of the buffer, which holds the last one first.
  induction bytes generalizing w fresh with
  | nil =>
    rw [List.map_nil, List.nil_append, poll, if_pos rfl,
      show lineOfBuffer? (w.gather newline).buffer = some text from htext]
  | cons b bytes ih =>
    rw [List.mem_cons, not_or] at hbytes
    rw [List.reverse_cons, List.append_assoc, List.singleton_append] at htext
    rw [List.map_cons, List.cons_append, poll, if_neg (Ne.symm hbytes.1)]
    exact ih (w := w.gather b) hbytes.2 htext

/-- Is the source going to send these lines from now on, and has this been written? -/
structure Awaits (w : Wire) (script : List Cue) (log : List Emission) : Prop where
  lines : ∀ cue ∈ script, '\n' ∉ cue.line.toList
  sorted : Cue.SortedFrom w.clock script
  buffer : w.buffer = []
  source : w.ended = false ∧ w.source = signals w.clock script ∨ w.ended = true ∧ script = []
  sink : w.sink = sinkOf log

/-- When there are no lines any more, the wire waits for the deadline or is closed. -/
lemma Awaits.receive_nil (h : w.Awaits [] log) (deadline : Option Time)
    (hearly : ∀ d, deadline = some d → w.clock < d) :
    ∃ w' : Wire, w.receive deadline = bring (w'.drain deadline) ∧ w'.clock = w.clock ∧
      w'.ended = true ∧ w'.Awaits [] log := by
  rcases h.source with ⟨hended, hsource⟩ | ⟨hended, -⟩
  · refine ⟨w.finish.clear, ?_, rfl, rfl, h.lines, trivial, rfl, .inr ⟨rfl, rfl⟩, h.sink⟩
    rw [receive_of_early hended hearly, hsource]
    simp [signals, poll, close, h.buffer]
  · exact ⟨w, by rw [receive, if_pos hended], rfl, hended, h⟩

/-- A deadline before the next line interrupts the waiting for it. -/
lemma Awaits.receive_due {cue : Cue} (h : w.Awaits (cue :: script) log) (hnow : w.clock < d)
    (hdue : d ≤ cue.time) :
    ∃ w' : Wire, w.receive (some d) = (.ok .deadline, w') ∧ w'.clock = d ∧
      w'.Awaits (cue :: script) log := by
  obtain ⟨hended, hsource⟩ : w.ended = false ∧ w.source = signals w.clock (cue :: script) := by
    simpa using h.source
  have hwait : w.clock + (cue.time - w.clock) = cue.time := Nat.add_sub_of_le h.sorted.1
  refine ⟨{ w with clock := d, source := signals d (cue :: script) }, ?_, rfl,
    h.lines, ⟨hdue, h.sorted.2⟩, h.buffer, .inl ⟨hended, rfl⟩, h.sink⟩
  rw [receive_of_early hended (by rintro _ ⟨⟩; exact hnow), hsource]
  simp [signals, poll, hwait, hdue]

/-- A line before the deadline is read to its end. -/
lemma Awaits.receive_line {cue : Cue} (h : w.Awaits (cue :: script) log)
    (hearly : ∀ d, deadline = some d → cue.time < d) :
    ∃ w' : Wire, w.receive deadline = (.ok (.line (withoutReturn cue.line)), w') ∧
      w'.clock = cue.time ∧ w'.Awaits script log := by
  obtain ⟨hended, hsource⟩ : w.ended = false ∧ w.source = signals w.clock (cue :: script) := by
    simpa using h.source
  obtain ⟨hcue, hlines⟩ := List.forall_mem_cons.mp h.lines
  have hwait : w.clock + (cue.time - w.clock) = cue.time := Nat.add_sub_of_le h.sorted.1
  refine ⟨{ ({ w with clock := cue.time } : Wire).clear with source := signals cue.time script },
    ?_, rfl, hlines, h.sorted.2, rfl, .inl ⟨hended, rfl⟩, h.sink⟩
  rw [receive_of_early hended fun d hd => h.sorted.1.trans_lt (hearly d hd), hsource, signals,
    poll_pause (by rwa [hwait]), hwait]
  refine poll_bytes (newline_notMem_bytesOf hcue) ?_
  rw [h.buffer, List.append_nil, lineOfBuffer?_bytesOf]

/-- Is the source going to send lines that come as these, and has this been written? -/
def Serves (w : Wire) (cues : List Cue) (log : List Emission) : Prop :=
  ∃ script, script.map Cue.onWire = cues ∧ w.Awaits script log

lemma timely : Timely Serves where
  close {w log} h := by
    obtain ⟨script, hcues, h⟩ := h
    obtain rfl := List.map_eq_nil_iff.mp hcues
    obtain ⟨w', hreceive, hclock, -, h'⟩ := h.receive_nil none (by simp)
    exact ⟨w', hreceive, hclock, [], rfl, h'⟩
  expire {w cues log d} h hnow hdue := by
    obtain ⟨script, rfl, h⟩ := h
    rcases Nat.lt_or_eq_of_le hnow with hnow | rfl
    · cases script with
      | nil =>
        obtain ⟨w', hreceive, hclock, hended, h'⟩ :=
          h.receive_nil (some d) (by rintro _ ⟨⟩; exact hnow)
        have hmax : max w'.clock d = d := by rw [hclock]; exact Nat.max_eq_right hnow.le
        exact ⟨_, hreceive, hmax, [], rfl,
          h'.lines, trivial, h'.buffer, .inr ⟨hended, rfl⟩, h'.sink⟩
      | cons cue script =>
        obtain ⟨w', hreceive, hclock, h'⟩ := h.receive_due hnow (hdue cue.onWire rfl)
        exact ⟨w', hreceive, hclock, _, rfl, h'⟩
    -- With the deadline come already, nothing is read, and the source may still be open.
    · exact ⟨w, w.receive_now, rfl, script, rfl, h⟩
  line {w cue cues log deadline} h hearly := by
    obtain ⟨script, hcues, h⟩ := h
    obtain ⟨sent, script, rfl, rfl, rfl⟩ := List.map_eq_cons_iff.mp hcues
    obtain ⟨w', hreceive, hclock, h'⟩ := h.receive_line hearly
    exact ⟨w', hreceive, hclock, script, rfl, h'⟩
  emit {w cues log} group h := by
    obtain ⟨script, hcues, h⟩ := h
    refine ⟨{ w with sink := sinkOf (log ++ [⟨w.clock, group⟩]) }, ?_, script, hcues,
      h.lines, h.sorted, h.buffer, h.source, rfl⟩
    simp only [Channel.emit, emit, h.sink, sinkOf_put log w.clock group]

/-- A new wire whose source sends the lines of a script. -/
def ofScript (script : List Cue) : Wire :=
  { source := signals 0 script }

lemma serves_ofScript (hsorted : Cue.Sorted script)
    (hlines : ∀ cue ∈ script, '\n' ∉ cue.line.toList) :
    Serves (ofScript script) (script.map Cue.onWire) [] :=
  ⟨script, rfl, hlines, Cue.sortedFrom_of_sorted hsorted fun _ _ => Nat.zero_le _, rfl,
    .inl ⟨rfl, rfl⟩, rfl⟩

end Wire

/-- A run with a new arbiter on a wire that sends the lines of a script. -/
def Run.overWire (config : Config) (script : List Cue) : Run Wire :=
  ⟨Wire.ofScript script, Session.new config⟩

/--
A script in order, with no newline in any line, does over a wire what it does in a rehearsal. Both
runs succeed, and their journals are the same but for carriage returns, so that the same groups are
written at the same times. The same session is left, its counts included, at the same time, and what
went out on the wire are the groups of the rehearsal.
-/
theorem overWire_eq_rehearsal (config : Config) (script : List Cue) (hsorted : Cue.Sorted script)
    (hlines : ∀ cue ∈ script, '\n' ∉ cue.line.toList) :
    let r := Run.ofScript config script
    let w := Run.overWire config script
    r.run.1 = .ok () ∧ w.run.1 = .ok () ∧ w.journal = r.journal.map Entry.onWire ∧
      w.journal.flatMap Entry.emissions = r.run.2.channel.emissions ∧
      w.run.2.session = r.run.2.session ∧
      w.run.2.channel.clock = r.run.2.channel.clock ∧
      w.run.2.channel.sink.written =
        r.run.2.channel.emissions.map fun emission => Directive.render emission.group := by
  intro r w
  obtain ⟨final, hrun, hagenda, hrecorded, hclock⟩ := Run.rehearse config script
  rw [Rehearsal.queue_ofScript hsorted] at hagenda
  obtain ⟨final', h⟩ := Wire.timely.endsIn (s := Session.new config)
    (Wire.serves_ofScript hsorted hlines) (by intro d hd; cases hd)
  obtain ⟨hjournal, hsession⟩ := hagenda.onWire.unique h.agenda
  obtain ⟨_, -, hserved⟩ := h.served
  have hemissions : w.journal.flatMap Entry.emissions = final.channel.emissions := by
    rw [hrecorded, show w.journal = _ from hjournal, List.flatMap_map]
    simp only [Entry.emissions_onWire]
  rw [show r.run = (.ok (), final) from hrun, show w.run = (.ok (), final') from h.run]
  refine ⟨rfl, rfl, hjournal, hemissions, hsession, ?_, ?_⟩
  · rw [hclock]
    refine h.clock.trans ?_
    rw [hjournal, List.foldl_map]
    simp only [Entry.time_onWire]
    rfl
  · rw [hserved.sink, ← hemissions]
    rfl

/-- Somebody passes through the hallway and is back just when the window ends. The first line ends
in a carriage return. -/
def returning : List Cue :=
  [⟨500, "sensor_occupied hallway true\r"⟩, ⟨1000, "sensor_occupied hallway false"⟩,
    ⟨4000, "sensor_occupied hallway true"⟩]

lemma emissions_returning :
    (Run.ofScript {} returning).run.2.channel.emissions.map
        (fun emission => (emission.time, Directive.render emission.group)) =
      [(500, "set state FREE\nset color (250, 200, 100)\nset lowlight true\n"),
        (4000, "set state FREE\nset color (0, 0, 0)\n"),
        (4000, "set state FREE\nset color (250, 200, 100)\nset lowlight true\n")] := by
  obtain ⟨final, hrun, h, hrecorded, -⟩ := Run.rehearse {} returning
  rw [Rehearsal.queue_ofScript (by decide)] at h
  obtain ⟨_, hjournal, h₁⟩ := h.of_early (by intro d hd; cases hd)
  obtain ⟨_, rfl, h₂⟩ := h₁.of_early (by intro d hd; cases hd)
  obtain ⟨_, rfl, h₃⟩ := h₂.of_due (d := 4000) rfl (by simp)
  obtain ⟨_, rfl, h₄⟩ := h₃.of_early (by intro d hd; cases hd)
  obtain ⟨rfl, -⟩ := h₄.of_idle rfl
  rw [hrun, hrecorded, hjournal]
  rfl

/-- On the wire the light is dimmed, goes out with the window, and is dimmed again. -/
theorem overWire_eq_rehearsal_returning :
    Cue.Sorted returning ∧ (∀ cue ∈ returning, '\n' ∉ cue.line.toList) ∧
      (Run.overWire {} returning).run.2.channel.sink.written =
        ["set state FREE\nset color (250, 200, 100)\nset lowlight true\n",
          "set state FREE\nset color (0, 0, 0)\n",
          "set state FREE\nset color (250, 200, 100)\nset lowlight true\n"] := by
  have hsorted : Cue.Sorted returning := by decide
  have hlines : ∀ cue ∈ returning, '\n' ∉ cue.line.toList := by decide
  obtain ⟨-, -, -, -, -, -, hwritten⟩ := overWire_eq_rehearsal {} returning hsorted hlines
  refine ⟨hsorted, hlines, hwritten.trans ?_⟩
  have h := congrArg (List.map Prod.snd) emissions_returning
  rwa [List.map_map] at h

end LightArbiter
