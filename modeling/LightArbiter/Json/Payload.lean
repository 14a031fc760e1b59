import LightArbiter.Json.Skip
import LightArbiter.UserRecord

/-!
# Reading payloads

A payload is an array of user records. A record is an object with seven fields in any order, unknown
ones being skipped, or an array of the seven values in the order of the fields. Readers take tokens
off the front of a list; the first problem ends the reading.
-/

namespace LightArbiter.Json

/-- A reader takes a value off the front of the tokens. -/
abbrev Reader (α : Type) := List Token → Except Problem (α × List Token)

/-- The problem of meeting these tokens where a value of a certain type is wanted. -/
def unexpected (wanted : Wanted) : List Token → Problem
  | [] => .cutShort
  | .null :: _ => .mismatch (.wrongType .null wanted)
  | .boolean b :: _ => .mismatch (.wrongType (.boolean b) wanted)
  | .number (.ok n) _ :: _ => .mismatch (.wrongType (.number n) wanted)
  | .number (.error problem) _ :: _ => problem
  | .text (.ok s) _ :: _ => .mismatch (.wrongType (.text s) wanted)
  | .text (.error problem) _ :: _ => problem
  | .openArray :: _ => .mismatch (.wrongType .array wanted)
  | .openObject :: _ => .mismatch (.wrongType .object wanted)
  | .stray problem :: _ => problem
  | _ => .malformed

/-- The problem of meeting these tokens where a certain mark is needed. -/
def noMark : List Token → Problem
  | [] => .cutShort
  | _ => .malformed

/-! ### Simple values -/

/-- A string. -/
def readString : Reader String
  | .text (.ok s) _ :: tokens => .ok (s, tokens)
  | tokens => .error (unexpected .text tokens)

/-- A truth value. -/
def readBoolean : Reader Bool
  | .boolean b :: tokens => .ok (b, tokens)
  | tokens => .error (unexpected .boolean tokens)

/-- A number, as the double that stands for it. -/
def readCoordinate : Reader Coordinate
  | .number (.ok n) _ :: tokens => .ok (n.coordinate, tokens)
  | tokens => .error (unexpected .number tokens)

/-- A string that writes a color. -/
def readColor : Reader Color := fun tokens => do
  let (text, tokens) ← readString tokens
  match Color.ofText text with
  | .ok color => .ok (color, tokens)
  | .error error => .error (.mismatch (.invalidColor error))

/-- The tier of a name in a payload. -/
def tierNamed (name : String) : Except Problem Tier :=
  match Tier.ofName? name with
  | some tier => .ok tier
  | none => .error (.mismatch (.unknownTier name))

/-- The colon after a key. -/
def readColon : List Token → Except Problem (List Token)
  | .colon :: tokens => .ok tokens
  | tokens => .error (noMark tokens)

/-- What follows the name of a tier as the only key of an object: null and the end. -/
def readTierEnd (tokens : List Token) : Except Problem (List Token) := do
  match ← readColon tokens with
  | .null :: .closeObject :: tokens => .ok tokens
  | .null :: tokens => .error (noMark tokens)
  | tokens => .error (unexpected .nothing tokens)

/-- A tier: a string, or an object with the tier's name as its only key and null as the value. -/
def readTier : Reader Tier
  | .text (.error problem) _ :: _ => .error problem
  | .text (.ok name) _ :: tokens => (tierNamed name).map fun tier => (tier, tokens)
  | .openObject :: .text (.error problem) _ :: _ => .error problem
  | .openObject :: .text (.ok name) _ :: tokens => do
    let tier ← tierNamed name
    return (tier, ← readTierEnd tokens)
  | .openObject :: tokens => .error (noMark tokens)
  | tokens => .error (noMark tokens)

/-! ### Fields -/

/-- The fields of a record. -/
inductive Field where
  | userId
  | tier
  | sensorId
  | lightColor
  | lowLight
  | x
  | y
deriving DecidableEq

namespace Field

/-- The fields in the order of their declaration. -/
def all : List Field := [userId, tier, sensorId, lightColor, lowLight, x, y]

/-- The key of a field. -/
def name : Field → String
  | userId => "user_id"
  | tier => "user_type"
  | sensorId => "sensor_id"
  | lightColor => "light_color"
  | lowLight => "low_light"
  | x => "user_location_x"
  | y => "user_location_y"

/-- The field of a key. -/
def ofName? (name : String) : Option Field :=
  all.find? fun field => field.name == name

@[simp] theorem ofName?_name (field : Field) : ofName? field.name = some field := by
  cases field <;> rfl

end Field

/-- A record of which some fields have been read. -/
structure Draft where
  userId : Option String := none
  tier : Option Tier := none
  sensorId : Option String := none
  lightColor : Option Color := none
  lowLight : Option Bool := none
  x : Option Coordinate := none
  y : Option Coordinate := none

namespace Draft

/-- Has the field been read? -/
def has (draft : Draft) : Field → Bool
  | .userId => draft.userId.isSome
  | .tier => draft.tier.isSome
  | .sensorId => draft.sensorId.isSome
  | .lightColor => draft.lightColor.isSome
  | .lowLight => draft.lowLight.isSome
  | .x => draft.x.isSome
  | .y => draft.y.isSome

/-- The draft that comes of a value at the start of the tokens. -/
def fill {α : Type} (reader : Reader α) (store : α → Draft) (tokens : List Token) :
    Except Problem (Draft × List Token) :=
  (reader tokens).map fun (value, rest) => (store value, rest)

/-- The draft with the value of a field that stands at the start of the tokens. -/
def read (draft : Draft) : Field → List Token → Except Problem (Draft × List Token)
  | .userId => fill readString fun v => { draft with userId := some v }
  | .tier => fill readTier fun v => { draft with tier := some v }
  | .sensorId => fill readString fun v => { draft with sensorId := some v }
  | .lightColor => fill readColor fun v => { draft with lightColor := some v }
  | .lowLight => fill readBoolean fun v => { draft with lowLight := some v }
  | .x => fill readCoordinate fun v => { draft with x := some v }
  | .y => fill readCoordinate fun v => { draft with y := some v }

/-- The value of a field, or the complaint that it is missing. -/
def need {α : Type} (field : Field) : Option α → Except Problem α
  | some value => .ok value
  | none => .error (.mismatch (.missingField field.name))

/-- The record, if no field is missing. -/
def finish (draft : Draft) : Except Problem UserRecord := do
  return {
    userId := ← need .userId draft.userId
    tier := ← need .tier draft.tier
    sensorId := ← need .sensorId draft.sensorId
    lightColor := ← need .lightColor draft.lightColor
    lowLight := ← need .lowLight draft.lowLight
    x := ← need .x draft.x
    y := ← need .y draft.y
  }

end Draft

/-! ### Progress -/

theorem Draft.fill_length {α : Type} {reader : Reader α} {store : α → Draft} {draft : Draft}
    {tokens rest : List Token}
    (hr : ∀ value rest, reader tokens = .ok (value, rest) → rest.length < tokens.length)
    (h : Draft.fill reader store tokens = .ok (draft, rest)) : rest.length < tokens.length := by
  rcases hv : reader tokens with p | ⟨value, rest'⟩
  · simp [Draft.fill, hv, Except.map] at h
  · simp only [Draft.fill, hv, Except.map, Except.ok.injEq, Prod.mk.injEq] at h
    exact h.2 ▸ hr value rest' hv

theorem readString_length {tokens rest : List Token} {s : String}
    (h : readString tokens = .ok (s, rest)) : rest.length < tokens.length := by
  unfold readString at h
  split at h <;> simp_all

theorem readBoolean_length {tokens rest : List Token} {b : Bool}
    (h : readBoolean tokens = .ok (b, rest)) : rest.length < tokens.length := by
  unfold readBoolean at h
  split at h <;> simp_all

theorem readCoordinate_length {tokens rest : List Token} {x : Coordinate}
    (h : readCoordinate tokens = .ok (x, rest)) : rest.length < tokens.length := by
  unfold readCoordinate at h
  split at h <;> simp_all

theorem readColor_length {tokens rest : List Token} {c : Color}
    (h : readColor tokens = .ok (c, rest)) : rest.length < tokens.length := by
  rcases hs : readString tokens with p | ⟨text, rest'⟩
  · simp [readColor, hs, bind, Except.bind] at h
  · have := readString_length hs
    simp only [readColor, hs, bind, Except.bind] at h
    split at h
    · simp only [Except.ok.injEq, Prod.mk.injEq] at h
      exact h.2 ▸ this
    · simp at h

theorem readColon_length {tokens rest : List Token} (h : readColon tokens = .ok rest) :
    rest.length < tokens.length := by
  unfold readColon at h
  split at h <;> simp_all

theorem readTierEnd_length {tokens rest : List Token} (h : readTierEnd tokens = .ok rest) :
    rest.length < tokens.length := by
  rcases hc : readColon tokens with p | rest'
  · simp [readTierEnd, hc, bind, Except.bind] at h
  · have := readColon_length hc
    simp only [readTierEnd, hc, bind, Except.bind] at h
    split at h
    · simp only [Except.ok.injEq] at h
      simp only [List.length_cons] at this
      exact h ▸ (by omega)
    all_goals simp at h

theorem readTier_length {tokens rest : List Token} {t : Tier}
    (h : readTier tokens = .ok (t, rest)) : rest.length < tokens.length := by
  unfold readTier at h
  split at h
  · simp at h
  · rename_i name _ tokens
    rcases hn : tierNamed name with p | tier
    · simp [hn, Except.map] at h
    · simp only [hn, Except.map, Except.ok.injEq, Prod.mk.injEq] at h
      simp [← h.2]
  · simp at h
  · rename_i name _ tokens
    rcases hn : tierNamed name with p | tier
    · simp [hn, bind, Except.bind] at h
    · rcases he : readTierEnd tokens with p | rest'
      · simp [hn, he, bind, Except.bind] at h
      · have := readTierEnd_length he
        simp only [hn, he, bind, Except.bind, pure, Except.pure, Except.ok.injEq,
          Prod.mk.injEq] at h
        rw [← h.2]
        simp only [List.length_cons]
        omega
  all_goals simp at h

/-- Reading a field takes at least one token. -/
theorem Draft.read_length {draft result : Draft} {field : Field} {tokens rest : List Token}
    (h : draft.read field tokens = .ok (result, rest)) : rest.length < tokens.length := by
  unfold Draft.read at h
  cases field with
  | userId => exact Draft.fill_length (fun _ _ => readString_length) h
  | tier => exact Draft.fill_length (fun _ _ => readTier_length) h
  | sensorId => exact Draft.fill_length (fun _ _ => readString_length) h
  | lightColor => exact Draft.fill_length (fun _ _ => readColor_length) h
  | lowLight => exact Draft.fill_length (fun _ _ => readBoolean_length) h
  | x => exact Draft.fill_length (fun _ _ => readCoordinate_length) h
  | y => exact Draft.fill_length (fun _ _ => readCoordinate_length) h

/-! ### Records as objects -/

/-- A key, a colon and a value: a new field of the draft, or something that is skipped. -/
def readMember (draft : Draft) (tokens : List Token) : Except Problem (Draft × List Token) :=
  match tokens with
  | .text (.error problem) _ :: _ => .error problem
  | .text (.ok key) _ :: tokens =>
    match Field.ofName? key with
    | some field =>
      if draft.has field then .error (.mismatch (.duplicateField field.name))
      else (readColon tokens).bind (draft.read field)
    | none => ((readColon tokens).bind skipValue).map fun rest => (draft, rest)
  | tokens => .error (noMark tokens)

theorem readMember_length {draft result : Draft} {tokens rest : List Token}
    (h : readMember draft tokens = .ok (result, rest)) : rest.length < tokens.length := by
  unfold readMember at h
  split at h
  · simp at h
  · rename_i key _ tokens
    split at h
    · split at h
      · simp at h
      · rcases hc : readColon tokens with p | rest'
        · simp [hc, Except.bind] at h
        · have := readColon_length hc
          have := Draft.read_length (by simpa [hc, Except.bind] using h)
          simp only [List.length_cons]
          omega
    · rcases hc : readColon tokens with p | rest'
      · simp [hc, Except.bind, Except.map] at h
      · have := readColon_length hc
        rcases hs : skipValue rest' with p | rest''
        · simp [hc, hs, Except.bind, Except.map] at h
        · have := skipValue_length hs
          simp only [hc, hs, Except.bind, Except.map, Except.ok.injEq, Prod.mk.injEq] at h
          rw [← h.2]
          simp only [List.length_cons]
          omega
  · simp at h

/-- The further members of an object and its end. -/
def readMembers (draft : Draft) (tokens : List Token) : Except Problem (Draft × List Token) :=
  match tokens with
  | .closeObject :: tokens => .ok (draft, tokens)
  | .comma :: tokens =>
    match h : readMember draft tokens with
    | .error problem => .error problem
    | .ok (draft, rest) =>
      have := readMember_length h
      readMembers draft rest
  | tokens => .error (noMark tokens)
termination_by tokens.length

/-- The members of an object, from behind its bracket to its end. -/
def readObject : List Token → Except Problem (Draft × List Token)
  | .closeObject :: tokens => .ok ({}, tokens)
  | tokens => (readMember {} tokens).bind fun (draft, rest) => readMembers draft rest

/-! ### Records as arrays -/

/-- The elements of an array from number `count` on, as the values of these fields, and its end. -/
def readElements (count : Nat) (draft : Draft) :
    List Field → List Token → Except Problem (Draft × List Token)
  | [], .closeArray :: tokens => .ok (draft, tokens)
  | [], tokens => .error (noMark tokens)
  | _ :: _, .closeArray :: _ => .error (.mismatch (.tooFewFields count))
  | _ :: _, .comma :: .closeArray :: _ => .error .malformed
  | field :: fields, .comma :: tokens => do
    let (draft, rest) ← draft.read field tokens
    readElements (count + 1) draft fields rest
  | _ :: _, tokens => .error (noMark tokens)

/-- The elements of an array, from behind its bracket to its end, as the values of all fields. -/
def readArray : List Token → Except Problem (Draft × List Token)
  | .closeArray :: _ => .error (.mismatch (.tooFewFields 0))
  | tokens => do
    let (draft, rest) ← ({} : Draft).read .userId tokens
    readElements 1 draft Field.all.tail rest

/-! ### Records and payloads -/

/-- A user record. -/
def readRecord : Reader UserRecord
  | .openObject :: tokens => do
    let (draft, rest) ← readObject tokens
    return (← draft.finish, rest)
  | .openArray :: tokens => do
    let (draft, rest) ← readArray tokens
    return (← draft.finish, rest)
  | tokens => .error (unexpected .record tokens)

theorem readMembers_length {draft result : Draft} {tokens rest : List Token}
    (h : readMembers draft tokens = .ok (result, rest)) : rest.length < tokens.length := by
  fun_induction readMembers draft tokens with
  | case1 => simp_all
  | case2 => simp at h
  | case3 _ _ _ _ _ _ ih =>
    have := ih h
    simp only [List.length_cons]
    omega
  | case4 => simp at h

theorem readObject_length {result : Draft} {tokens rest : List Token}
    (h : readObject tokens = .ok (result, rest)) : rest.length < tokens.length := by
  unfold readObject at h
  split at h
  · simp_all
  · rcases hm : readMember {} tokens with p | ⟨draft, rest'⟩
    · simp [hm, Except.bind] at h
    · have := readMember_length hm
      have := readMembers_length (by simpa [hm, Except.bind] using h)
      omega

theorem readElements_length {count : Nat} {draft result : Draft} {fields : List Field}
    {tokens rest : List Token} (h : readElements count draft fields tokens = .ok (result, rest)) :
    rest.length < tokens.length := by
  induction fields generalizing count draft tokens with
  | nil =>
    unfold readElements at h
    split at h <;> simp_all
  | cons field fields ih =>
    unfold readElements at h
    split at h
    case h_5 field' fields' tokens hne heq =>
      obtain ⟨rfl, rfl⟩ := List.cons.inj heq
      rcases hr : draft.read field tokens with p | ⟨draft', rest'⟩
      · simp [hr, bind, Except.bind] at h
      · have := Draft.read_length hr
        have := ih (by simpa [hr, bind, Except.bind] using h)
        simp only [List.length_cons]
        omega
    all_goals simp_all

theorem readArray_length {result : Draft} {tokens rest : List Token}
    (h : readArray tokens = .ok (result, rest)) : rest.length < tokens.length := by
  unfold readArray at h
  split at h
  · simp at h
  · rcases hr : ({} : Draft).read .userId tokens with p | ⟨draft, rest'⟩
    · simp [hr, bind, Except.bind] at h
    · have := Draft.read_length hr
      have := readElements_length (by simpa [hr, bind, Except.bind] using h)
      omega

/-- Reading a record takes at least one token. -/
theorem readRecord_length {r : UserRecord} {tokens rest : List Token}
    (h : readRecord tokens = .ok (r, rest)) : rest.length < tokens.length := by
  have key (d : Except Problem (Draft × List Token)) (n : Nat)
      (hd : ∀ draft rest, d = .ok (draft, rest) → rest.length < n)
      (h : (d.bind fun p => p.1.finish.bind fun r => .ok (r, p.2)) = .ok (r, rest)) :
      rest.length < n + 1 := by
    rcases d with p | ⟨draft, rest'⟩
    · simp [Except.bind] at h
    · have := hd draft rest' rfl
      rcases hf : draft.finish with p | r'
      · simp [Except.bind, hf] at h
      · simp only [Except.bind, hf, Except.ok.injEq, Prod.mk.injEq] at h
        rw [← h.2]
        omega
  unfold readRecord at h
  split at h
  · exact key _ _ (fun _ _ => readObject_length) h
  · exact key _ _ (fun _ _ => readArray_length) h
  · simp at h

/-- The further records of a payload and its end. -/
def readMore (tokens : List Token) : Except Problem (List UserRecord × List Token) :=
  match tokens with
  | .closeArray :: tokens => .ok ([], tokens)
  | .comma :: .closeArray :: _ => .error .malformed
  | .comma :: tokens =>
    match h : readRecord tokens with
    | .error problem => .error problem
    | .ok (record, rest) =>
      have := readRecord_length h
      (readMore rest).map fun (records, rest) => (record :: records, rest)
  | tokens => .error (noMark tokens)
termination_by tokens.length

/-- An array of user records. -/
def readRecords : Reader (List UserRecord)
  | .openArray :: .closeArray :: tokens => .ok ([], tokens)
  | .openArray :: tokens => do
    let (record, rest) ← readRecord tokens
    let (records, rest) ← readMore rest
    return (record :: records, rest)
  | tokens => .error (unexpected .payload tokens)

/-! ### Whole texts -/

/-- What a reader makes of a text, if it leaves nothing over. -/
def readAll {α : Type} (reader : Reader α) (cs : List Char) : Except Problem α :=
  match reader (Token.scan cs) with
  | .error problem => .error problem
  | .ok (value, []) => .ok value
  | .ok (_, _ :: _) => .error .malformed

/-- The records of a payload. -/
def recordsOfChars (cs : List Char) : Except Problem (List UserRecord) :=
  readAll readRecords cs

end LightArbiter.Json
