import LightArbiter.Proofs.Collation
import LightArbiter.Proofs.Resolution

/-!
# Enrolment of users

A payload makes up a directory exactly if no two of its records share a user and no two share a
sensor. After any part of the payload both tables of the directory hold what there is in that part;
so the directory finds each record by its user, and by its sensor through the user. Otherwise the
first record that repeats something of those before it decides what is wrong.
-/

namespace LightArbiter

variable {d d' : Directory} {r : UserRecord} {records others : List UserRecord}

/-- Do no two of the records share a user, and no two a sensor? -/
structure Distinct (records : List UserRecord) : Prop where
  users : (records.map UserRecord.userId).Nodup
  sensors : (records.map UserRecord.sensorId).Nodup

lemma distinct_iff : Distinct records ↔
    (records.map UserRecord.userId).Nodup ∧ (records.map UserRecord.sensorId).Nodup :=
  ⟨fun h => ⟨h.users, h.sensors⟩, fun h => ⟨h.1, h.2⟩⟩

lemma Distinct.perm (h : Distinct records) (hperm : records.Perm others) : Distinct others where
  users := (hperm.map _).nodup_iff.mp h.users
  sensors := (hperm.map _).nodup_iff.mp h.sensors

lemma Distinct.sublist (h : Distinct records) (hsub : others.Sublist records) :
    Distinct others where
  users := h.users.sublist (hsub.map _)
  sensors := h.sensors.sublist (hsub.map _)

lemma distinct_cons_iff :
    Distinct (r :: records) ↔ (∀ s ∈ records, s.userId ≠ r.userId) ∧
      (∀ s ∈ records, s.sensorId ≠ r.sensorId) ∧ Distinct records := by
  constructor
  · rintro ⟨husers, hsensors⟩
    rw [List.map_cons, List.nodup_cons, List.mem_map] at husers hsensors
    exact ⟨fun s hs h => husers.1 ⟨s, hs, h⟩, fun s hs h => hsensors.1 ⟨s, hs, h⟩, husers.2,
      hsensors.2⟩
  · rintro ⟨hid, hsensor, husers, hsensors⟩
    constructor
    · rw [List.map_cons, List.nodup_cons, List.mem_map]
      exact ⟨fun ⟨s, hs, h⟩ => hid s hs h, husers⟩
    · rw [List.map_cons, List.nodup_cons, List.mem_map]
      exact ⟨fun ⟨s, hs, h⟩ => hsensor s hs h, hsensors⟩

namespace Directory

lemma distinct_records (d : Directory) : Distinct d.records :=
  ⟨d.ascending.nodup_map, d.sensors_nodup⟩

/-! ### One user more -/

/-- Do the tables of the directory hold the users and the sensors of these records and no others? -/
structure Holds (d : Directory) (records : List UserRecord) : Prop where
  users : d.records.Perm records
  sensors : d.sensors.Perm (records.map UserRecord.link)

lemma holds_records (d : Directory) : d.Holds d.records := ⟨.refl _, d.linked⟩

lemma Holds.perm (h : d.Holds records) (hperm : records.Perm others) : d.Holds others where
  users := h.users.trans hperm
  sensors := h.sensors.trans (hperm.map _)

lemma Holds.add (h : d.Holds records) (hadd : d.add r = .ok d') : d'.Holds (r :: records) := by
  rw [Directory.add] at hadd
  split_ifs at hadd with hu hs
  cases hadd
  constructor
  · exact (records_put hu).trans (h.users.cons r)
  · exact (sensors_put hs).trans (h.sensors.cons r.link)

/-- The table of sensors knows the sensors of the users. -/
lemma exists_sensor_iff {sensorId : String} :
    (∃ l ∈ d.sensors, l.sensorId = sensorId) ↔ ∃ s ∈ d.records, s.sensorId = sensorId := by
  simp [d.linked.mem_iff, UserRecord.link]

/-- A user is enrolled unless the user or the sensor is there already. -/
lemma exists_add_iff : (∃ d', d.add r = .ok d') ↔ Distinct (r :: d.records) := by
  rw [distinct_cons_iff, add]
  constructor
  · rintro ⟨d', h⟩
    split_ifs at h with hu hs
    rw [exists_sensor_iff] at hs
    exact ⟨fun s hs h => hu ⟨s, hs, h⟩, fun s hs' h => hs ⟨s, hs', h⟩, d.distinct_records⟩
  · rintro ⟨hid, hsensor, -⟩
    have hu : ¬∃ s ∈ d.records, s.userId = r.userId := fun ⟨s, hs, h⟩ => hid s hs h
    have hs : ¬∃ l ∈ d.sensors, l.sensorId = r.sensorId := by
      rw [exists_sensor_iff]
      exact fun ⟨s, hs, h⟩ => hsensor s hs h
    rw [dif_neg hu, dif_neg hs]
    exact ⟨_, rfl⟩

/-! ### All users of a payload -/

lemma addAll_cons_of_ok {d₁ : Directory} (h : d.add r = .ok d₁) :
    d.addAll (r :: records) = d₁.addAll records := by
  rw [addAll, h]
  rfl

lemma addAll_cons_of_error {error : DirectoryError} (h : d.add r = .error error) :
    d.addAll (r :: records) = .error error := by
  rw [addAll, h]
  rfl

/-- What the tables hold grows by the users that are added. -/
lemma Holds.addAll (h : d.Holds records) (hall : d.addAll others = .ok d') :
    d'.Holds (records ++ others) := by
  induction others generalizing d records with
  | nil =>
    cases hall
    rwa [List.append_nil]
  | cons r others ih =>
    cases hadd : d.add r with
    | error error => cases (addAll_cons_of_error hadd).symm.trans hall
    | ok d₁ =>
      rw [addAll_cons_of_ok hadd] at hall
      exact (ih (h.add hadd) hall).perm List.perm_middle.symm

lemma exists_addAll_iff : (∃ d', d.addAll records = .ok d') ↔ Distinct (records ++ d.records) := by
  induction records generalizing d with
  | nil => exact iff_of_true ⟨d, rfl⟩ d.distinct_records
  | cons r records ih =>
    cases hadd : d.add r with
    | error error =>
      refine iff_of_false ?_ fun h => ?_
      · rintro ⟨d', h⟩
        cases (addAll_cons_of_error hadd).symm.trans h
      · have hfirst : Distinct (r :: d.records) :=
          h.sublist ((List.sublist_append_right records d.records).cons_cons r)
        obtain ⟨d', hd'⟩ := exists_add_iff.mpr hfirst
        cases hadd.symm.trans hd'
    | ok d₁ =>
      have hperm : (records ++ d₁.records).Perm (r :: (records ++ d.records)) :=
        ((d.holds_records.add hadd).users.append_left records).trans List.perm_middle
      rw [addAll_cons_of_ok hadd, ih]
      exact ⟨fun h => h.perm hperm, fun h => h.perm hperm.symm⟩

/-- A directory holds the records of its payload. -/
lemma holds_ofRecords (h : ofRecords records = .ok d) : d.Holds records :=
  empty.holds_records.addAll h

lemma perm_ofRecords (h : ofRecords records = .ok d) : d.records.Perm records :=
  (holds_ofRecords h).users

lemma exists_ofRecords_iff : (∃ d, ofRecords records = .ok d) ↔ Distinct records := by
  have h : (∃ d, empty.addAll records = .ok d) ↔ Distinct (records ++ []) := exists_addAll_iff
  rwa [List.append_nil] at h

/-- The order of the records in a payload makes no difference. -/
lemma ofRecords_perm (h : ofRecords records = .ok d) (hperm : records.Perm others) :
    ofRecords others = .ok d := by
  have hdistinct : Distinct others := (exists_ofRecords_iff.mp ⟨d, h⟩).perm hperm
  obtain ⟨d', h'⟩ := exists_ofRecords_iff.mpr hdistinct
  have hrecords : d'.records.Perm d.records :=
    (perm_ofRecords h').trans (hperm.symm.trans (perm_ofRecords h).symm)
  rw [h', Directory.ext (d'.ascending.eq_of_perm d.ascending hrecords)]

/-! ### The two ways to a record -/

lemma Holds.userOf?_eq_some_iff (h : d.Holds records) {sensorId userId : String} :
    d.userOf? sensorId = some userId ↔
      ∃ r ∈ records, r.sensorId = sensorId ∧ r.userId = userId := by
  rw [userOf?, Option.map_eq_some_iff]
  constructor
  · rintro ⟨l, hl, rfl⟩
    obtain ⟨hmem, rfl⟩ := mem_of_lookup hl
    obtain ⟨r, hr, rfl⟩ := List.mem_map.mp (h.sensors.mem_iff.mp hmem)
    exact ⟨r, hr, rfl, rfl⟩
  · rintro ⟨r, hr, rfl, rfl⟩
    have hlink : r.link ∈ d.sensors := h.sensors.mem_iff.mpr (List.mem_map_of_mem hr)
    exact ⟨r.link, d.sensors_ascending.lookup_of_mem hlink, rfl⟩

/-- The table of sensors leads to a user, and the table of users from there to the record. -/
lemma Holds.bySensor?_eq_some_iff (h : d.Holds records) {sensorId : String} :
    d.bySensor? sensorId = some r ↔ r ∈ records ∧ r.sensorId = sensorId := by
  rw [bySensor?, Option.bind_eq_some_iff]
  constructor
  · rintro ⟨userId, huser, hr⟩
    obtain ⟨s, hs, rfl, rfl⟩ := h.userOf?_eq_some_iff.mp huser
    obtain ⟨hr, hid⟩ := mem_of_user? hr
    rw [eq_of_userId_eq hr (h.users.mem_iff.mpr hs) hid]
    exact ⟨hs, rfl⟩
  · rintro ⟨hr, rfl⟩
    have huser := h.userOf?_eq_some_iff.mpr ⟨r, hr, rfl, rfl⟩
    exact ⟨r.userId, huser, user?_of_mem (h.users.mem_iff.mpr hr)⟩

/-- By way of its user a sensor leads to the record that has it. -/
lemma bySensor?_eq_lookup (d : Directory) (sensorId : String) :
    d.bySensor? sensorId = lookup UserRecord.sensorId sensorId d.records := by
  ext r
  rw [d.holds_records.bySensor?_eq_some_iff, lookup_eq_some_iff d.sensors_nodup]

/-- The directory holds the records of a payload, in the order of their users by the bytes of the
ids, and the users of their sensors; and it leads from each user and from each sensor to the record,
and from no others to any. -/
structure Enrols (d : Directory) (records : List UserRecord) : Prop where
  perm : d.records.Perm records
  links : d.sensors.Perm (records.map UserRecord.link)
  ascending : d.records.Pairwise fun r s => bytesOf r.userId < bytesOf s.userId
  size : d.size = records.length
  user : ∀ userId r, d.user? userId = some r ↔ r ∈ records ∧ r.userId = userId
  noUser : ∀ userId, d.user? userId = none ↔ userId ∉ records.map UserRecord.userId
  sensor : ∀ sensorId r, d.bySensor? sensorId = some r ↔ r ∈ records ∧ r.sensorId = sensorId
  noSensor : ∀ sensorId, d.bySensor? sensorId = none ↔ sensorId ∉ records.map UserRecord.sensorId

lemma Holds.enrols (h : d.Holds records) : d.Enrols records where
  perm := h.users
  links := h.sensors
  ascending := d.ascending.imp fun hlt => bytesOf_lt_iff.mpr hlt
  size := h.users.length_eq
  user userId r := by
    rw [user?, lookup_eq_some_iff d.ascending.nodup_map, h.users.mem_iff]
  noUser userId := by
    rw [user?, lookup_eq_none_iff, (h.users.map _).mem_iff]
  sensor _ _ := h.bySensor?_eq_some_iff
  noSensor sensorId := by
    rw [bySensor?_eq_lookup, lookup_eq_none_iff, (h.users.map _).mem_iff]

lemma enrols_ofRecords (h : ofRecords records = .ok d) : d.Enrols records :=
  (holds_ofRecords h).enrols

/-! ### Payloads that are refused -/

/-- What a record repeats of others: the user, whether or not it repeats a sensor, or else the
sensor. -/
inductive Repeats (others : List UserRecord) (r : UserRecord) : DirectoryError → Prop where
  | user (known : ∃ s ∈ others, s.userId = r.userId) :
      Repeats others r (.duplicateUser r.userId)
  | sensor (new : ¬∃ s ∈ others, s.userId = r.userId)
      (known : ∃ s ∈ others, s.sensorId = r.sensorId) :
      Repeats others r (.duplicateSensor r.sensorId)

variable {error : DirectoryError}

lemma Repeats.congr (h : Repeats records r error) (hmem : ∀ s, s ∈ records ↔ s ∈ others) :
    Repeats others r error := by
  cases h with
  | user hknown =>
    simp only [hmem] at hknown
    exact .user hknown
  | sensor hnew hknown =>
    simp only [hmem] at hnew hknown
    exact .sensor hnew hknown

lemma add_eq_error_iff : d.add r = .error error ↔ Repeats d.records r error := by
  rw [add]
  constructor
  · intro h
    split_ifs at h with hu hs
    · cases h
      exact .user hu
    · cases h
      exact .sensor hu (exists_sensor_iff.mp hs)
  · intro h
    cases h with
    | user hknown => rw [dif_pos hknown]
    | sensor hnew hknown => rw [dif_neg hnew, dif_pos (exists_sensor_iff.mpr hknown)]

/-- Users are added up to the first one who is refused. -/
lemma addAll_eq_error_iff :
    d.addAll records = .error error ↔ ∃ front r back d', records = front ++ r :: back ∧
      d.addAll front = .ok d' ∧ d'.add r = .error error := by
  induction records generalizing d with
  | nil => simp [addAll]
  | cons first records ih =>
    cases hadd : d.add first with
    | error refusal =>
      rw [addAll_cons_of_error hadd]
      constructor
      · rintro ⟨⟩
        exact ⟨[], first, records, d, rfl, rfl, hadd⟩
      · rintro ⟨front, r, back, d', hsplit, hfront, hr⟩
        cases front with
        | nil =>
          obtain ⟨rfl, rfl⟩ := List.cons_eq_cons.mp hsplit
          cases hfront
          exact hadd.symm.trans hr
        | cons s front =>
          obtain ⟨rfl, rfl⟩ := List.cons_eq_cons.mp hsplit
          cases (addAll_cons_of_error hadd).symm.trans hfront
    | ok d₁ =>
      rw [addAll_cons_of_ok hadd, ih]
      constructor
      · rintro ⟨front, r, back, d', rfl, hfront, hr⟩
        exact ⟨first :: front, r, back, d', rfl, (addAll_cons_of_ok hadd).trans hfront, hr⟩
      · rintro ⟨front, r, back, d', hsplit, hfront, hr⟩
        cases front with
        | nil =>
          obtain ⟨rfl, rfl⟩ := List.cons_eq_cons.mp hsplit
          cases hfront
          cases hadd.symm.trans hr
        | cons s front =>
          obtain ⟨rfl, rfl⟩ := List.cons_eq_cons.mp hsplit
          exact ⟨front, r, back, d', rfl, (addAll_cons_of_ok hadd).symm.trans hfront, hr⟩

lemma ofRecords_eq_error_iff :
    ofRecords records = .error error ↔
      ∃ front r back, records = front ++ r :: back ∧ Distinct front ∧ Repeats front r error := by
  rw [ofRecords, addAll_eq_error_iff]
  constructor
  · rintro ⟨front, r, back, d, hsplit, hfront, hr⟩
    refine ⟨front, r, back, hsplit, exists_ofRecords_iff.mp ⟨d, hfront⟩, ?_⟩
    exact (add_eq_error_iff.mp hr).congr fun s => (perm_ofRecords hfront).mem_iff
  · rintro ⟨front, r, back, hsplit, hdistinct, hrepeats⟩
    obtain ⟨d, hfront⟩ := exists_ofRecords_iff.mpr hdistinct
    refine ⟨front, r, back, d, hsplit, hfront, ?_⟩
    exact add_eq_error_iff.mpr (hrepeats.congr fun s => (perm_ofRecords hfront).mem_iff.symm)

/--
A payload makes up a directory exactly if no two of its records share a user and no two share a
sensor. The directory then holds its records in ascending order of the users, and leads from users
and from sensors to the records that have them; the payload in any other order makes up the same
one. If it makes up none then what is wrong is what the first record that repeats a user or a sensor
of those before it repeats, the user if it repeats both.
-/
theorem enrols_or_repeats (records : List UserRecord) :
    ((∃ d, ofRecords records = .ok d) ↔
      (records.map UserRecord.userId).Nodup ∧ (records.map UserRecord.sensorId).Nodup) ∧
    (∀ d, ofRecords records = .ok d →
      d.Enrols records ∧ ∀ others, records.Perm others → ofRecords others = .ok d) ∧
    ∀ error, ofRecords records = .error error ↔
      ∃ front r back, records = front ++ r :: back ∧
        ((front.map UserRecord.userId).Nodup ∧ (front.map UserRecord.sensorId).Nodup) ∧
        Repeats front r error := by
  simp only [← distinct_iff]
  refine ⟨exists_ofRecords_iff, ?_, ?_⟩
  · intro d h
    refine ⟨enrols_ofRecords h, ?_⟩
    intro others hperm
    exact ofRecords_perm h hperm
  · intro error
    exact ofRecords_eq_error_iff

-- The third record repeats both the user of the first and the sensor of the second. Without such
-- repetitions the order of the payload makes no difference.
example :
    let alice := UserRecord.plain "alice" .user1
    let bob := UserRecord.plain "bob" .user2
    let both := { alice with sensorId := bob.sensorId }
    let sensor := { both with userId := "carol" }
    ofRecords [alice, bob, both, sensor] = .error (.duplicateUser "alice") ∧
      ofRecords [alice, bob, sensor, both] = .error (.duplicateSensor "s-bob") ∧
      (ofRecords [bob, alice]).map Directory.records = .ok [alice, bob] ∧
      (ofRecords [bob, alice]).map (bySensor? · "s-bob") = .ok (some bob) := by
  decide

end Directory

end LightArbiter
