import LightArbiter.OwnershipLine
import LightArbiter.Proofs.Coloring
import LightArbiter.Proofs.Delivery
import LightArbiter.Proofs.Encoding
import LightArbiter.Proofs.Grammar
import LightArbiter.Proofs.Reassembly

/-!
# Records that are written and read again

The texts of colors, tiers and fields are read back as what they were written from. So a record is
read back whatever the order of its fields is, and with it a payload and an ownership line. A line
holds no control character, so that it comes over a wire in one piece.
-/

namespace LightArbiter

/-! ### Values of fields -/

/-- Do the coordinates of the record read back? -/
def UserRecord.ReadsBack (r : UserRecord) : Prop :=
  r.x.ReadsBack ∧ r.y.ReadsBack

instance (r : UserRecord) : Decidable r.ReadsBack :=
  inferInstanceAs (Decidable (r.x.ReadsBack ∧ r.y.ReadsBack))

namespace Json

section Values

variable {rest : List Char}

lemma readString_writeChars (text : String) :
    readString (Token.scan (writeChars text.toList ++ rest)) = .ok (text, Token.scan rest) := by
  rw [scan_writeChars, String.ofList_toList]
  rfl

lemma readTier_writeChars (tier : Tier) :
    readTier (Token.scan (writeChars tier.name.toList ++ rest)) = .ok (tier, Token.scan rest) := by
  rw [scan_writeChars, String.ofList_toList, readTier, tierNamed, Tier.ofName?_name]
  rfl

lemma readColor_writeChars (color : Color) :
    readColor (Token.scan (writeChars color.chars ++ rest)) = .ok (color, Token.scan rest) := by
  have hcolor : Color.ofText (String.ofList color.chars) = .ok color := color.ofText_text
  rw [scan_writeChars]
  simp only [readColor, readString, bind, Except.bind, hcolor]

lemma readBoolean_writeBoolean (b : Bool) :
    readBoolean (Token.scan (writeBoolean b ++ rest)) = .ok (b, Token.scan rest) := by
  rw [scan_writeBoolean]
  rfl

/-- The draft with the value that the record has for a field. -/
def Draft.noting (r : UserRecord) (draft : Draft) : Field → Draft
  | .userId => { draft with userId := some r.userId }
  | .tier => { draft with tier := some r.tier }
  | .sensorId => { draft with sensorId := some r.sensorId }
  | .lightColor => { draft with lightColor := some r.lightColor }
  | .lowLight => { draft with lowLight := some r.lowLight }
  | .x => { draft with x := some r.x }
  | .y => { draft with y := some r.y }

lemma Draft.read_writeField {r : UserRecord} (h : r.ReadsBack) (hrest : EndsNumber rest)
    (draft : Draft) (field : Field) :
    draft.read field (Token.scan (writeField r field ++ rest)) =
      .ok (draft.noting r field, Token.scan rest) := by
  cases field with
  | userId => simp only [Draft.read, fill, writeField, readString_writeChars, Except.map, noting]
  | tier => simp only [Draft.read, fill, writeField, readTier_writeChars, Except.map, noting]
  | sensorId => simp only [Draft.read, fill, writeField, readString_writeChars, Except.map, noting]
  | lightColor => simp only [Draft.read, fill, writeField, readColor_writeChars, Except.map, noting]
  | lowLight =>
    simp only [Draft.read, fill, writeField, readBoolean_writeBoolean, Except.map, noting]
  | x => simp only [Draft.read, fill, writeField, h.1.read_append hrest, Except.map, noting]
  | y => simp only [Draft.read, fill, writeField, h.2.read_append hrest, Except.map, noting]

end Values

/-! ### Members -/

section Members

variable {r : UserRecord} {draft : Draft} {field : Field} {fields order : List Field}
  {rest : List Char} {texts : List (List Char)} {text : List Char}

lemma joinCommas_cons :
    joinCommas (text :: texts) = text ++ texts.flatMap (',' :: ·) := by
  induction texts generalizing text with
  | nil => simp [joinCommas]
  | cons next texts ih => simp [joinCommas, ih]

lemma has_empty (field : Field) : ({} : Draft).has field = false := by
  cases field <;> rfl

lemma has_noting (other : Field) :
    (draft.noting r field).has other = (draft.has other || decide (other = field)) := by
  cases field <;> cases other <;> simp [Draft.noting, Draft.has]

lemma has_noting_of_notMem (h : ∀ other ∈ fields, draft.has other = false)
    (hfield : field ∉ fields) :
    ∀ other ∈ fields, (draft.noting r field).has other = false := by
  intro other hother
  rw [has_noting, h other hother, Bool.false_or, decide_eq_false_iff_not]
  rintro rfl
  exact hfield hother

lemma readMember_writeMember (h : r.ReadsBack) (hrest : EndsNumber rest)
    (hnew : draft.has field = false) :
    readMember draft (Token.scan (writeMember r field ++ rest)) =
      .ok (draft.noting r field, Token.scan rest) := by
  have hcolon : Token.scan (':' :: (writeField r field ++ rest)) =
      .colon :: Token.scan (writeField r field ++ rest) := scan_mark rfl rfl
  rw [writeMember, List.append_assoc, scan_writeChars, String.ofList_toList, List.cons_append,
    hcolon]
  simp only [readMember, Field.ofName?_name, hnew, readColon, Except.bind]
  exact draft.read_writeField h hrest field

/-- The members of an object behind the first one, its end, and what follows. -/
def moreMembers (r : UserRecord) (fields : List Field) (rest : List Char) : List Char :=
  (fields.map (writeMember r)).flatMap (',' :: ·) ++ '}' :: rest

lemma moreMembers_cons :
    moreMembers r (field :: fields) rest =
      ',' :: (writeMember r field ++ moreMembers r fields rest) := by
  simp [moreMembers]

lemma writeRecord_cons :
    writeRecord (field :: fields) r ++ rest =
      '{' :: (writeMember r field ++ moreMembers r fields rest) := by
  simp [writeRecord, joinCommas_cons, moreMembers]

lemma endsNumber_moreMembers : EndsNumber (moreMembers r fields rest) := by
  cases fields <;> simp [moreMembers, EndsNumber]

/-- The further members are read one by one, if no field comes twice. -/
lemma readMembers_moreMembers (h : r.ReadsBack) (hnodup : fields.Nodup)
    (hnew : ∀ field ∈ fields, draft.has field = false) :
    readMembers draft (Token.scan (moreMembers r fields rest)) =
      .ok (fields.foldl (Draft.noting r) draft, Token.scan rest) := by
  induction fields generalizing draft with
  | nil =>
    have hclose : Token.scan (moreMembers r [] rest) = .closeObject :: Token.scan rest :=
      scan_mark rfl rfl
    rw [hclose, readMembers]
    rfl
  | cons field fields ih =>
    obtain ⟨hfield, hfields⟩ := List.forall_mem_cons.mp hnew
    obtain ⟨hnotMem, hnodup⟩ := List.nodup_cons.mp hnodup
    have hmember :
        readMember draft (Token.scan (writeMember r field ++ moreMembers r fields rest)) = _ :=
      readMember_writeMember h endsNumber_moreMembers hfield
    rw [moreMembers_cons, scan_mark rfl rfl, readMembers]
    split
    next herror => cases hmember.symm.trans herror
    next hread =>
      cases hmember.symm.trans hread
      exact ih hnodup (has_noting_of_notMem hfields hnotMem)

lemma readObject_of_readMember {tokens left : List Token}
    (h : readMember {} tokens = .ok (draft, left)) :
    readObject tokens = readMembers draft left := by
  unfold readObject
  split
  · cases h
  · rw [h]
    rfl

/-- Does the draft have the value of the record for a field? -/
def Draft.Holds (draft : Draft) (r : UserRecord) : Field → Prop
  | .userId => draft.userId = some r.userId
  | .tier => draft.tier = some r.tier
  | .sensorId => draft.sensorId = some r.sensorId
  | .lightColor => draft.lightColor = some r.lightColor
  | .lowLight => draft.lowLight = some r.lowLight
  | .x => draft.x = some r.x
  | .y => draft.y = some r.y

lemma holds_noting : (draft.noting r field).Holds r field := by
  cases field <;> rfl

lemma Draft.Holds.noting {other : Field} (h : draft.Holds r other) :
    (draft.noting r field).Holds r other := by
  cases field <;> cases other <;> first | rfl | exact h

lemma holds_foldl (h : field ∈ fields ∨ draft.Holds r field) :
    (fields.foldl (Draft.noting r) draft).Holds r field := by
  induction fields generalizing draft with
  | nil => simpa using h
  | cons first fields ih =>
    apply ih
    rcases h with h | h
    · rcases List.mem_cons.mp h with rfl | h
      · exact .inr holds_noting
      · exact .inl h
    · exact .inr h.noting

lemma finish_of_holds (h : ∀ field, draft.Holds r field) : draft.finish = .ok r := by
  have huser : draft.userId = some r.userId := h .userId
  have htier : draft.tier = some r.tier := h .tier
  have hsensor : draft.sensorId = some r.sensorId := h .sensorId
  have hcolor : draft.lightColor = some r.lightColor := h .lightColor
  have hlow : draft.lowLight = some r.lowLight := h .lowLight
  have hx : draft.x = some r.x := h .x
  have hy : draft.y = some r.y := h .y
  simp only [Draft.finish, huser, htier, hsensor, hcolor, hlow, hx, hy, Draft.need]
  rfl

/-- A record is read as it is written, whatever the order of its fields is. -/
lemma readRecord_writeRecord (h : r.ReadsBack) (horder : order.Perm Field.all) :
    readRecord (Token.scan (writeRecord order r ++ rest)) = .ok (r, Token.scan rest) := by
  cases order with
  | nil => exact absurd horder (by decide)
  | cons field fields =>
    have hall : ∀ other, other ∈ field :: fields := by
      intro other
      rw [horder.mem_iff]
      cases other <;> decide
    obtain ⟨hnotMem, hnodup⟩ := List.nodup_cons.mp (horder.nodup_iff.mpr (by decide))
    have hmember :
        readMember {} (Token.scan (writeMember r field ++ moreMembers r fields rest)) = _ :=
      readMember_writeMember h endsNumber_moreMembers (has_empty field)
    have hnew : ∀ other ∈ fields, (Draft.noting r {} field).has other = false :=
      has_noting_of_notMem (fun other _ => has_empty other) hnotMem
    have hholds : ∀ other, ((field :: fields).foldl (Draft.noting r) {}).Holds r other :=
      fun other => holds_foldl (.inl (hall other))
    rw [writeRecord_cons, scan_mark rfl rfl]
    simp only [readRecord, readObject_of_readMember hmember, readMembers_moreMembers h hnodup hnew,
      bind, Except.bind]
    rw [List.foldl_cons] at hholds
    rw [finish_of_holds hholds]
    rfl

end Members

/-! ### Payloads -/

section Payloads

variable {r : UserRecord} {records : List UserRecord} {order : List Field} {rest : List Char}
  {tokens left : List Token}

lemma ne_closeArray_of_readRecord (h : readRecord tokens = .ok (r, left)) (rest : List Token) :
    tokens ≠ .closeArray :: rest := by
  rintro rfl
  cases h

lemma readMore_of_readRecord (h : readRecord tokens = .ok (r, left)) :
    readMore (.comma :: tokens) =
      (readMore left).map fun (records, rest) => (r :: records, rest) := by
  rw [readMore]
  · split
    next herror => cases h.symm.trans herror
    next hread =>
      cases h.symm.trans hread
      rfl
  · exact ne_closeArray_of_readRecord h

lemma readRecords_of_readRecord (h : readRecord tokens = .ok (r, left)) :
    readRecords (.openArray :: tokens) =
      (readMore left).map fun (records, rest) => (r :: records, rest) := by
  unfold readRecords
  split
  next heq =>
    cases heq
    cases h
  next heq =>
    cases heq
    simp only [h, bind, Except.bind]
    cases readMore left <;> rfl
  next hne => exact absurd rfl (hne tokens)

/-- The records of a payload behind the first one, its end, and what follows. -/
def moreRecords (order : List Field) (records : List UserRecord) (rest : List Char) : List Char :=
  (records.map (writeRecord order)).flatMap (',' :: ·) ++ ']' :: rest

lemma moreRecords_cons :
    moreRecords order (r :: records) rest =
      ',' :: (writeRecord order r ++ moreRecords order records rest) := by
  simp [moreRecords]

lemma writeRecords_cons :
    writeRecords order (r :: records) =
      '[' :: (writeRecord order r ++ moreRecords order records []) := by
  simp [writeRecords, joinCommas_cons, moreRecords]

lemma readMore_moreRecords (horder : order.Perm Field.all) (h : ∀ r ∈ records, r.ReadsBack) :
    readMore (Token.scan (moreRecords order records rest)) = .ok (records, Token.scan rest) := by
  induction records with
  | nil =>
    have hclose : Token.scan (moreRecords order [] rest) = .closeArray :: Token.scan rest :=
      scan_mark rfl rfl
    rw [hclose, readMore]
  | cons r records ih =>
    obtain ⟨hr, hrecords⟩ := List.forall_mem_cons.mp h
    rw [moreRecords_cons, scan_mark rfl rfl,
      readMore_of_readRecord (readRecord_writeRecord hr horder), ih hrecords]
    rfl

/-- Records are read as they are written, whatever the order of their fields is. -/
lemma recordsOfChars_writeRecords (horder : order.Perm Field.all) (h : ∀ r ∈ records, r.ReadsBack) :
    recordsOfChars (writeRecords order records) = .ok records := by
  cases records with
  | nil =>
    have hempty : Token.scan (writeRecords order []) = [.openArray, .closeArray] := by
      rw [show writeRecords order [] = ['[', ']'] from rfl, scan_mark rfl rfl, scan_mark rfl rfl,
        Token.scan]
    rw [recordsOfChars, readAll, hempty]
    rfl
  | cons r records =>
    obtain ⟨hr, hrecords⟩ := List.forall_mem_cons.mp h
    have hrecord :
        readRecord (Token.scan (writeRecord order r ++ moreRecords order records [])) = _ :=
      readRecord_writeRecord hr horder
    have hread := readRecords_of_readRecord hrecord
    rw [readMore_moreRecords horder hrecords] at hread
    rw [recordsOfChars, readAll, writeRecords_cons, scan_mark rfl rfl, hread, Token.scan]
    rfl

end Payloads

end Json

/-! ### Ownership lines -/

section Lines

variable {records : List UserRecord} {texts : List (List Char)} {code : Nat}

lemma atLeast_joinCommas (hcode : code ≤ ','.toNat) (h : ∀ text ∈ texts, AtLeast code text) :
    AtLeast code (Json.joinCommas texts) := by
  cases texts with
  | nil => exact atLeast_nil
  | cons text texts =>
    obtain ⟨htext, htexts⟩ := List.forall_mem_cons.mp h
    rw [Json.joinCommas_cons, atLeast_append]
    refine ⟨htext, fun c hc => ?_⟩
    obtain ⟨next, hnext, hc⟩ := List.mem_flatMap.mp hc
    exact atLeast_cons.mpr ⟨hcode, htexts next hnext⟩ c hc

lemma atLeast_writeField (r : UserRecord) (field : Json.Field) :
    AtLeast 0x20 (Json.writeField r field) := by
  cases field with
  | userId => exact Json.atLeast_writeChars _
  | tier => exact Json.atLeast_writeChars _
  | sensorId => exact Json.atLeast_writeChars _
  | lightColor => exact Json.atLeast_writeChars _
  | lowLight =>
    rw [Json.writeField, Json.writeBoolean]
    split_ifs <;> simp
  | x => exact Coordinate.atLeast_text.mono (by decide)
  | y => exact Coordinate.atLeast_text.mono (by decide)

/-- Records are written without control characters. -/
lemma atLeast_writeRecords (order : List Json.Field) (records : List UserRecord) :
    AtLeast 0x20 (Json.writeRecords order records) := by
  have hrecord (r : UserRecord) : AtLeast 0x20 (Json.writeRecord order r) := by
    have hmembers : AtLeast 0x20 (Json.joinCommas (order.map (Json.writeMember r))) := by
      refine atLeast_joinCommas (by decide) (List.forall_mem_map.mpr fun field _ => ?_)
      simp [Json.writeMember, Json.atLeast_writeChars, atLeast_writeField]
    simp [Json.writeRecord, hmembers]
  have hrecords : AtLeast 0x20 (Json.joinCommas (records.map (Json.writeRecord order))) :=
    atLeast_joinCommas (by decide) (List.forall_mem_map.mpr fun r _ => hrecord r)
  simp [Json.writeRecords, hrecords]

lemma notMem_ownershipLine {c : Char} (hc : c.toNat < 0x20) :
    c ∉ (ownershipLine records).toList := by
  have hline : AtLeast 0x20 (ownershipChars records) := by
    simp [ownershipChars, CommandWord.name, atLeast_writeRecords]
  rw [ownershipLine, String.toList_ofList]
  intro hmem
  exact absurd (hline c hmem) (Nat.not_le.mpr hc)

/-- An ownership line is trimmed already. -/
lemma trimmed_ownershipChars (records : List UserRecord) :
    Text.Trimmed (ownershipChars records) := by
  constructor
  · rintro _ ⟨⟩
    rfl
  · have hend : ownershipChars records = CommandWord.ownership.name.toList ++ ' ' ::
        '[' :: Json.joinCommas (records.map (Json.writeRecord Json.Field.alphabetical)) ++
          [']'] := by
      simp [ownershipChars, Json.writeRecords]
    rw [hend, List.getLast?_concat]
    rintro _ ⟨⟩
    rfl

lemma ofLine_ownershipLine (h : ∀ r ∈ records, r.ReadsBack) :
    Command.ofLine (ownershipLine records) = .ok (.ownership records) := by
  have hread : Command.ofChars ([] ++ ownershipChars records ++ []) = _ :=
    ofChars_eq_reader (by simp [Text.Blank]) (by simp [Text.Blank]) (trimmed_ownershipChars records)
  have hpayload : Json.recordsOfChars (Json.writeRecords Json.Field.alphabetical records) = _ :=
    Json.recordsOfChars_writeRecords (by decide) h
  rw [List.nil_append, List.append_nil] at hread
  rw [Command.ofLine, ownershipLine, String.toList_ofList, hread]
  simp only [CommandWord.reader, readOwnership, hpayload]

/-- The bytes of an ownership line and a newline are one line, whatever follows. -/
lemma linesOfBytes_ownershipLine (records : List UserRecord) (more : List UInt8) :
    linesOfBytes (bytesOf (ownershipLine records) ++ newline :: more) =
      ownershipLine records :: linesOfBytes more := by
  have hnewline : newline ∉ (bytesOf (ownershipLine records)).reverse := by
    rw [List.mem_reverse]
    exact newline_notMem_bytesOf (notMem_ownershipLine (by decide))
  have hreturn : withoutReturn (ownershipLine records) = ownershipLine records := by
    have hlast : (ownershipLine records).toList.getLast? ≠ some '\r' := fun h =>
      notMem_ownershipLine (by decide) (List.mem_of_getLast? h)
    rw [withoutReturn, dropReturn, if_neg hlast, String.ofList_toList]
  have hlines := linesOfBytes_append_newline hnewline more
  rw [List.reverse_reverse, lineOfBuffer?_bytesOf, hreturn] at hlines
  exact hlines

/--
Records come back from what they are written to, if the text of each coordinate reads back as the
coordinate. That is so for the command of an ownership line, where the fields stand in alphabetical
order, and for a payload with the fields in the order of their declaration. There is no newline and
no carriage return in the line, and a wire delivers it as one line, before the lines of the bytes
behind it, however its bytes are interrupted by pauses, deadlines and reads that fail.
-/
theorem ownershipLine_decodes (records : List UserRecord) (h : ∀ r ∈ records, r.ReadsBack) :
    Command.ofLine (ownershipLine records) = .ok (.ownership records) ∧
    Json.recordsOfChars (Json.writeRecords Json.Field.all records) = .ok records ∧
    '\n' ∉ (ownershipLine records).toList ∧ '\r' ∉ (ownershipLine records).toList ∧
    ∀ (source : List Signal) (more : List UInt8) (deadlines : List (Option Time)),
      bytesIn source = bytesOf (ownershipLine records) ++ newline :: more →
      source.length + 1 < deadlines.count none →
      ((({ source := source } : Wire).answers deadlines).filterMap textOf?) =
        ownershipLine records :: linesOfBytes more := by
  refine ⟨ofLine_ownershipLine h, Json.recordsOfChars_writeRecords (List.Perm.refl _) h,
    notMem_ownershipLine (by decide), notMem_ownershipLine (by decide), ?_⟩
  intro source more deadlines hbytes hcount
  have hgathering : ({ source := source } : Wire).Gathering :=
    Wire.gathering_of_open rfl List.not_mem_nil
  rw [hgathering.lines_answers_of_closed (Wire.closed_mem_answers hcount)]
  have hunread : ({ source := source } : Wire).unread = bytesIn source := rfl
  rw [hunread, hbytes, linesOfBytes_ownershipLine]

end Lines

/-- Two users with quotes, brackets, control characters and line separators in their ids, at zeros
and at numbers with a fraction and an exponent. -/
def guests : List UserRecord :=
  [{ userId := "a \"quoted\\ \n\r\t id\u2028"
     tier := .user1
     sensorId := "\x01\x1f,\x7d]"
     lightColor := ⟨0, 20, 255⟩
     lowLight := true
     x := Coordinate.zero
     y := { Coordinate.zero with negative := true } },
   { userId := ""
     tier := .user3
     sensorId := "δ"
     lightColor := Color.warmWhite
     lowLight := false
     x := ⟨true, ⟨0x7E41EB2D66005835, by decide⟩, by decide⟩
     y := ⟨false, ⟨0x7FC55C576D815726, by decide⟩, by decide⟩ }]

theorem ownershipLine_decodes_guests :
    (∀ r ∈ guests, r.ReadsBack) ∧
      Command.ofLine (ownershipLine guests) = .ok (.ownership guests) := by
  have h : ∀ r ∈ guests, r.ReadsBack := by decide +kernel
  exact ⟨h, (ownershipLine_decodes guests h).1⟩

-- The double nearest to 2.5e305 is read with two roundings, and comes out as another.
example : ¬(⟨false, ⟨0x7F56C8E5CA239029, by decide⟩, by decide⟩ : Coordinate).ReadsBack := by
  decide +kernel

end LightArbiter
