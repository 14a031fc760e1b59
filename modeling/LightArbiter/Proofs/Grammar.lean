import LightArbiter.Command
import LightArbiter.Directive
import LightArbiter.Proofs.Words

/-!
# The grammar of lines

Three kinds of separation meet in a line: blanks of any kind around it, the first space behind the
command word, and blanks of any kind between the words of a reading, while a claim's argument is one
piece. `Spells` says how readings and claims are written, and `Leads` which word a line starts with.
Both say all that the reader of lines does with them.
-/

namespace LightArbiter

open Text

variable {line word argument : List Char} {command : Command} {known : CommandWord}

/-- How a reading or a claim is written in a line. -/
inductive Spells : List Char → Command → Prop where
  | reading {before inner sensor gap after : List Char} (occupied : Bool) (blank_before : Blank before)
      (blank_inner : Blank inner) (blank_gap : Blank gap) (gap_ne_nil : gap ≠ [])
      (blank_after : Blank after) (sensor_ne_nil : sensor ≠ [])
      (solid : ∀ c ∈ sensor, isBlank c = false) :
      Spells (before ++ ("sensor_occupied".toList ++ ' ' ::
          (inner ++ sensor ++ gap ++ (boolText occupied).toList)) ++ after)
        (.sensorOccupied (String.ofList sensor) occupied)
  | claim {before user after : List Char} (blank_before : Blank before) (blank_after : Blank after)
      (user_ne_nil : user ≠ []) (solid_end : ∀ c ∈ user.getLast?, isBlank c = false) :
      Spells (before ++ ("user3".toList ++ ' ' :: user) ++ after) (.claim (String.ofList user))

/-- Is the word the text of the line, without the blanks around it, up to its first space? -/
def Leads (word line : List Char) : Prop :=
  ∃ before text after, line = before ++ text ++ after ∧ Blank before ∧ Blank after ∧
    Trimmed text ∧ ' ' ∉ word ∧ (text = word ∨ ∃ argument, text = word ++ ' ' :: argument)

/-- The command word that the answer to a line tells. -/
def wordTold : Except BadLine Command → String
  | .ok command => command.word.name
  | .error (.unknownCommand word) => word
  | .error (.badArgument reason) => reason.word.name
  | .error (.badPayload _) => CommandWord.ownership.name

/-! ### The first word of a line -/

lemma splitWord_append (h : ' ' ∉ word) : splitWord (word ++ ' ' :: argument) = (word, argument) := by
  have hword : ∀ c ∈ word, decide (c ≠ ' ') = true := by
    intro c hc
    exact decide_eq_true fun heq => h (heq ▸ hc)
  obtain ⟨hfront, hrest⟩ := takeWhile_append_eq (' ' :: argument) hword (by simp)
  rw [splitWord, hfront, hrest]
  rfl

lemma splitWord_of_notMem (h : ' ' ∉ word) : splitWord word = (word, []) := by
  have hword : ∀ c ∈ word, decide (c ≠ ' ') = true := by
    intro c hc
    exact decide_eq_true fun heq => h (heq ▸ hc)
  obtain ⟨hfront, hrest⟩ := takeWhile_append_eq [] hword (by simp)
  rw [List.append_nil] at hfront hrest
  rw [splitWord, hfront, hrest]
  rfl

lemma exists_splitWord (cs : List Char) :
    ∃ word argument, splitWord cs = (word, argument) ∧ ' ' ∉ word ∧
      (cs = word ∧ argument = [] ∨ cs = word ++ ' ' :: argument) := by
  obtain ⟨word, rest, rfl, hword, hrest⟩ := exists_front (fun c => decide (c ≠ ' ')) cs
  have hspace : ' ' ∉ word := fun hmem => by simpa using hword ' ' hmem
  cases rest with
  | nil =>
    rw [List.append_nil]
    exact ⟨word, [], splitWord_of_notMem hspace, hspace, .inl ⟨rfl, rfl⟩⟩
  | cons c argument =>
    obtain rfl : c = ' ' := by simpa using hrest c rfl
    exact ⟨word, argument, splitWord_append hspace, hspace, .inr rfl⟩

/-- A line starts with one word only, the one that the reader takes. -/
lemma leads_iff : Leads word line ↔ word = (splitWord (trim line)).1 := by
  constructor
  · rintro ⟨before, text, after, rfl, hbefore, hafter, htext, hspace, hword⟩
    rw [htext.trim_append hbefore hafter]
    rcases hword with rfl | ⟨argument, rfl⟩
    · rw [splitWord_of_notMem hspace]
    · rw [splitWord_append hspace]
  · rintro rfl
    obtain ⟨htrimmed, before, after, hbefore, hafter, hline⟩ := exists_trim line
    obtain ⟨word, argument, hsplit, hspace, hcases⟩ := exists_splitWord (trim line)
    refine ⟨before, trim line, after, hline, hbefore, hafter, htrimmed, ?_, ?_⟩
    · rwa [hsplit]
    · rw [hsplit]
      exact hcases.imp And.left fun h => ⟨argument, h⟩

/-! ### Command words -/

namespace CommandWord

/-- What the word makes of its argument. -/
def reader : CommandWord → List Char → Except BadLine Command
  | location => readLocation
  | ownership => readOwnership
  | sensorOccupied => readSensor
  | user3 => readClaim

lemma ofChars?_eq_some_iff {cs : List Char} : ofChars? cs = some known ↔ cs = known.name.toList := by
  constructor
  · intro h
    have hname := List.find?_some h
    exact (beq_iff_eq.mp hname).symm
  · rintro rfl
    cases known <;> decide

lemma ofChars?_eq_none_iff {cs : List Char} :
    ofChars? cs = none ↔ ∀ known : CommandWord, known.name.toList ≠ cs := by
  have hall : ∀ known : CommandWord, known ∈ all := by
    intro known
    cases known <;> decide
  simp [ofChars?, hall]

/-- The four command words. -/
lemma exists_name_eq_iff {text : String} :
    (∃ known : CommandWord, known.name = text) ↔
      text ∈ ["location", "ownership", "sensor_occupied", "user3"] := by
  constructor
  · rintro ⟨known, rfl⟩
    cases known <;> decide
  · intro h
    simp only [List.mem_cons, List.not_mem_nil, or_false] at h
    rcases h with rfl | rfl | rfl | rfl
    · exact ⟨location, rfl⟩
    · exact ⟨ownership, rfl⟩
    · exact ⟨sensorOccupied, rfl⟩
    · exact ⟨user3, rfl⟩

end CommandWord

lemma ofChars_of_known (h : (splitWord (trim line)).1 = known.name.toList) :
    Command.ofChars line = known.reader (splitWord (trim line)).2 := by
  have hknown := CommandWord.ofChars?_eq_some_iff.mpr h
  simp only [Command.ofChars, hknown]
  cases known <;> rfl

lemma ofChars_of_unknown
    (h : ∀ known : CommandWord, known.name.toList ≠ (splitWord (trim line)).1) :
    Command.ofChars line = .error (.unknownCommand (String.ofList (splitWord (trim line)).1)) := by
  have hunknown := CommandWord.ofChars?_eq_none_iff.mpr h
  simp only [Command.ofChars, hunknown]

/-- An answer to a line with a known word, whatever becomes of its argument. -/
inductive Answers (known : CommandWord) : Except BadLine Command → Prop where
  | command {command : Command} (word_eq : command.word = known) : Answers known (.ok command)
  | badArgument {reason : BadArgument} (word_eq : reason.word = known) :
      Answers known (.error (.badArgument reason))
  | badPayload {problem : Json.Problem} (word_eq : known = .ownership) :
      Answers known (.error (.badPayload problem))

lemma answers_readLocation (argument : List Char) : Answers .location (readLocation argument) := by
  have hcoordinate : ∀ cs bad, readCoordinate cs = .error bad → Answers .location (.error bad) := by
    intro cs bad h
    rw [readCoordinate] at h
    split at h <;> cases h
    exact .badArgument rfl
  rw [readLocation]
  split
  · rename_i x y _
    cases hx : readCoordinate x with
    | error bad => exact hcoordinate x bad hx
    | ok x =>
      cases hy : readCoordinate y with
      | error bad => exact hcoordinate y bad hy
      | ok y => exact .command rfl
  · exact .badArgument rfl

lemma answers_reader (known : CommandWord) (argument : List Char) :
    Answers known (known.reader argument) := by
  cases known with
  | location => exact answers_readLocation argument
  | ownership =>
    simp only [CommandWord.reader, readOwnership]
    cases Json.recordsOfChars argument with
    | ok records => exact .command rfl
    | error problem => exact .badPayload rfl
  | sensorOccupied =>
    simp only [CommandWord.reader, readSensor]
    split
    · split_ifs
      · exact .command rfl
      · exact .command rfl
      · exact .badArgument rfl
    · exact .badArgument rfl
  | user3 =>
    simp only [CommandWord.reader, readClaim]
    split_ifs
    · exact .badArgument rfl
    · exact .command rfl

lemma Answers.wordTold_eq {answer : Except BadLine Command} (h : Answers known answer) :
    wordTold answer = known.name := by
  cases h with
  | command hword => exact congrArg CommandWord.name hword
  | badArgument hword => exact congrArg CommandWord.name hword
  | badPayload hword => exact congrArg CommandWord.name hword.symm

lemma wordTold_ofChars (line : List Char) :
    wordTold (Command.ofChars line) = String.ofList (splitWord (trim line)).1 := by
  by_cases h : ∃ known : CommandWord, (splitWord (trim line)).1 = known.name.toList
  · obtain ⟨known, hknown⟩ := h
    rw [ofChars_of_known hknown, (answers_reader known _).wordTold_eq, hknown, String.ofList_toList]
  · rw [ofChars_of_unknown fun known heq => h ⟨known, heq.symm⟩]
    rfl

/-! ### Readings and claims -/

lemma readSensor_eq_ok_iff :
    readSensor argument = .ok command ↔
      ∃ sensor occupied, words argument = [sensor, (boolText occupied).toList] ∧
        command = .sensorOccupied (String.ofList sensor) occupied := by
  rw [readSensor]
  constructor
  · intro h
    split at h
    · rename_i sensor occupied hwords
      split_ifs at h with htrue hfalse
      · cases h
        exact ⟨sensor, true, by rw [hwords, htrue]; rfl, rfl⟩
      · cases h
        exact ⟨sensor, false, by rw [hwords, hfalse]; rfl, rfl⟩
    · cases h
  · rintro ⟨sensor, occupied, hwords, rfl⟩
    rw [hwords]
    cases occupied <;> rfl

lemma readClaim_eq_ok_iff :
    readClaim argument = .ok command ↔
      argument ≠ [] ∧ command = .claim (String.ofList argument) := by
  rw [readClaim]
  cases argument with
  | nil => simp
  | cons c argument => simp [eq_comm]

lemma isWord_boolText (occupied : Bool) : IsWord (boolText occupied).toList := by
  cases occupied <;> exact ⟨by decide, by simp [boolText, isBlank]⟩

/-- A line that is a known word and an argument, between blanks, is read as that word reads it. -/
lemma ofChars_eq_reader {before after : List Char} (hbefore : Blank before) (hafter : Blank after)
    (htext : Trimmed (known.name.toList ++ ' ' :: argument)) :
    Command.ofChars (before ++ (known.name.toList ++ ' ' :: argument) ++ after) =
      known.reader argument := by
  have hspace : ' ' ∉ known.name.toList := by cases known <;> decide
  have htrim := htext.trim_append hbefore hafter
  have hsplit : splitWord (trim (before ++ (known.name.toList ++ ' ' :: argument) ++ after)) =
      (known.name.toList, argument) := by
    rw [htrim, splitWord_append hspace]
  rw [ofChars_of_known (by rw [hsplit]), hsplit]

lemma Spells.ofChars_eq (h : Spells line command) :
    Command.ofChars line = .ok command ∧
      (command.word = .sensorOccupied ∨ command.word = .user3) := by
  cases h with
  | @reading before inner sensor gap after occupied hbefore hinner hgap hne hafter hsensor hsolid =>
    have htext : Trimmed (CommandWord.sensorOccupied.name.toList ++ ' ' ::
        (inner ++ sensor ++ gap ++ (boolText occupied).toList)) := by
      constructor
      · rintro _ ⟨⟩
        rfl
      · rw [List.append_cons, ← List.append_assoc,
          List.getLast?_append_of_ne_nil _ (isWord_boolText occupied).ne_nil]
        intro c hc
        exact (isWord_boolText occupied).solid c (List.mem_of_getLast? hc)
    refine ⟨(ofChars_eq_reader hbefore hafter htext).trans ?_, .inl rfl⟩
    refine readSensor_eq_ok_iff.mpr ⟨sensor, occupied, words_eq_pair_iff.mpr ?_, rfl⟩
    exact ⟨inner, gap, [], by simp, hinner, hgap, hne, by simp [Blank], ⟨hsensor, hsolid⟩,
      isWord_boolText occupied⟩
  | @claim before user after hbefore hafter hne hend =>
    have htext : Trimmed (CommandWord.user3.name.toList ++ ' ' :: user) := by
      constructor
      · rintro _ ⟨⟩
        rfl
      · rwa [List.append_cons, List.getLast?_append_of_ne_nil _ hne]
    refine ⟨(ofChars_eq_reader hbefore hafter htext).trans ?_, .inr rfl⟩
    exact readClaim_eq_ok_iff.mpr ⟨hne, rfl⟩

/-- A line that is read as a command is the word of the command, and a space and an argument unless
it has none, between blanks. -/
lemma exists_of_ofChars_eq_ok (h : Command.ofChars line = .ok command) :
    ∃ before after argument, Blank before ∧ Blank after ∧
      command.word.reader argument = .ok command ∧
      (argument = [] ∨ line = before ++ (command.word.name.toList ++ ' ' :: argument) ++ after ∧
        ∀ c ∈ argument.getLast?, isBlank c = false) := by
  obtain ⟨htrimmed, before, after, hbefore, hafter, hline⟩ := exists_trim line
  obtain ⟨word, argument, hsplit, -, hcases⟩ := exists_splitWord (trim line)
  have hword : word = command.word.name.toList := by
    have htold := wordTold_ofChars line
    rw [h, hsplit] at htold
    rw [← String.toList_ofList (l := word), ← htold]
    rfl
  have hread : Command.ofChars line = command.word.reader (splitWord (trim line)).2 :=
    ofChars_of_known (by rw [hsplit, hword])
  rw [h, hsplit] at hread
  refine ⟨before, after, argument, hbefore, hafter, hread.symm, ?_⟩
  rcases hcases with ⟨-, rfl⟩ | htext
  · exact .inl rfl
  · rw [hword] at htext
    by_cases hnil : argument = []
    · exact .inl hnil
    · refine .inr ⟨by rw [← htext]; exact hline, ?_⟩
      have hlast := htrimmed.last
      rwa [htext, List.append_cons, List.getLast?_append_of_ne_nil _ hnil] at hlast

lemma spells_of_ofChars_eq (h : Command.ofChars line = .ok command)
    (hword : command.word = .sensorOccupied ∨ command.word = .user3) : Spells line command := by
  obtain ⟨before, after, argument, hbefore, hafter, hread, hcases⟩ := exists_of_ofChars_eq_ok h
  rcases hword with hword | hword
  · rw [hword] at hread hcases
    obtain ⟨sensor, occupied, hwords, rfl⟩ := readSensor_eq_ok_iff.mp hread
    obtain ⟨inner, gap, rest, rfl, hinner, hgap, hne, hrest, hsensor, hbool⟩ :=
      words_eq_pair_iff.mp hwords
    rcases hcases with hnil | ⟨rfl, -⟩
    · exact absurd hnil (by simp [hsensor.ne_nil])
    · have hblank : Blank (rest ++ after) := by
        simpa [Blank, or_imp, forall_and] using ⟨hrest, hafter⟩
      have hspells := Spells.reading occupied hbefore hinner hgap hne hblank hsensor.ne_nil
        hsensor.solid
      simpa [CommandWord.name] using hspells
  · rw [hword] at hread hcases
    obtain ⟨hne, rfl⟩ := readClaim_eq_ok_iff.mp hread
    rcases hcases with hnil | ⟨rfl, hlast⟩
    · exact absurd hnil hne
    · exact .claim hbefore hafter hne hlast

/-- A line spells a reading or a claim exactly if it is read as that. -/
lemma spells_iff :
    Spells line command ↔ Command.ofChars line = .ok command ∧
      (command.word = .sensorOccupied ∨ command.word = .user3) :=
  ⟨Spells.ofChars_eq, fun h => spells_of_ofChars_eq h.1 h.2⟩

/--
The readings and claims that a line is read as are those that it spells, and it spells one at most.
A line starts with one word, and the answer to it tells this word, be it a command, an argument that
is refused, or an unknown word; and a word is unknown exactly if it is none of the four.
-/
theorem ofLine_eq_ok_iff_spells (line : String) :
    (∀ command, Spells line.toList command ↔ Command.ofLine line = .ok command ∧
      (command.word = .sensorOccupied ∨ command.word = .user3)) ∧
    (∀ command other, Spells line.toList command → Spells line.toList other → command = other) ∧
    ∃ word, (∀ other, Leads other line.toList ↔ other = word) ∧
      wordTold (Command.ofLine line) = String.ofList word ∧
      ∀ text, Command.ofLine line = .error (.unknownCommand text) ↔
        text = String.ofList word ∧
          text ∉ ["location", "ownership", "sensor_occupied", "user3"] := by
  refine ⟨fun command => spells_iff, fun command other h h' => ?_,
    (splitWord (trim line.toList)).1, fun other => leads_iff, wordTold_ofChars line.toList,
    fun text => ⟨fun h => ?_, ?_⟩⟩
  · exact Except.ok.inj ((spells_iff.mp h).1.symm.trans (spells_iff.mp h').1)
  · have htold := wordTold_ofChars line.toList
    rw [show Command.ofChars line.toList = _ from h] at htold
    refine ⟨htold, fun hmem => ?_⟩
    -- A known word is read, and then the answer is not that it is unknown.
    obtain ⟨known, hname⟩ := CommandWord.exists_name_eq_iff.mpr hmem
    have hknown : (splitWord (trim line.toList)).1 = known.name.toList := by
      rw [hname, show text = _ from htold, String.toList_ofList]
    have hanswer := answers_reader known (splitWord (trim line.toList)).2
    rw [← ofChars_of_known hknown, show Command.ofChars line.toList = _ from h] at hanswer
    cases hanswer
  · rintro ⟨rfl, hunknown⟩
    refine ofChars_of_unknown fun known heq => hunknown ?_
    exact CommandWord.exists_name_eq_iff.mp ⟨known, by rw [← heq, String.ofList_toList]⟩

-- Only a space ends the command word, but any blank ends the word of a sensor.
example :
    Command.ofLine "user3	bob" = .error (.unknownCommand "user3	bob") ∧
      Command.ofLine "sensor_occupied 	s1	true" = .ok (.sensorOccupied "s1" true) := by
  decide

end LightArbiter
