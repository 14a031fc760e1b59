import LightArbiter.Ascending
import LightArbiter.UserRecord

/-!
# The ownership directory

The known users, in two tables that are filled side by side: the records in ascending order of the
users' ids, and the users of the sensors. A record is found by its user at once and by its sensor
through the user. No two users share an id and no two users share a sensor. A directory is made from
the records of a payload, all at once or not at all.
-/

namespace LightArbiter

/-- A sensor and the user whose presence it reports. -/
structure Link where
  sensorId : String
  userId : String
deriving DecidableEq, Repr

/-- The sensor of a record and the user. -/
def UserRecord.link (r : UserRecord) : Link := ⟨r.sensorId, r.userId⟩

/-- The known users. -/
structure Directory where
  /-- The table of users. -/
  records : List UserRecord
  /-- The table of sensors. -/
  sensors : List Link
  ascending : Ascending UserRecord.userId records
  sensors_ascending : Ascending Link.sensorId sensors
  linked : sensors.Perm (records.map UserRecord.link)

/-- Why records make up no directory. -/
inductive DirectoryError where
  | duplicateUser (userId : String)
  | duplicateSensor (sensorId : String)
deriving DecidableEq, Repr

/-- The wording of the error. -/
def DirectoryError.message : DirectoryError → String
  | duplicateUser userId => "duplicate user id " ++ userId
  | duplicateSensor sensorId => "duplicate sensor id " ++ sensorId

namespace Directory

/-- A directory is determined by its records. -/
@[ext] theorem ext {d e : Directory} (h : d.records = e.records) : d = e := by
  have hlinked : d.sensors.Perm e.sensors := d.linked.trans (h ▸ e.linked.symm)
  have hsensors := d.sensors_ascending.eq_of_perm e.sensors_ascending hlinked
  cases d; cases e; cases h; cases hsensors; rfl

/-- No two users share a sensor. -/
theorem sensors_nodup (d : Directory) : (d.records.map UserRecord.sensorId).Nodup := by
  have h := d.linked.map Link.sensorId
  rw [List.map_map] at h
  exact h.nodup_iff.1 d.sensors_ascending.nodup_map

instance : DecidableEq Directory := fun _ _ =>
  decidable_of_iff _ ⟨Directory.ext, congrArg records⟩

/-- The directory without users. -/
def empty : Directory := ⟨[], [], .nil, .nil, .refl _⟩

instance : Inhabited Directory := ⟨empty⟩

/-- The number of users. -/
def size (d : Directory) : Nat := d.records.length

/-- The record of a user. -/
def user? (d : Directory) (userId : String) : Option UserRecord :=
  lookup UserRecord.userId userId d.records

/-- The user whose presence a sensor reports. -/
def userOf? (d : Directory) (sensorId : String) : Option String :=
  (lookup Link.sensorId sensorId d.sensors).map Link.userId

/-- The record of the user whose presence a sensor reports. -/
def bySensor? (d : Directory) (sensorId : String) : Option UserRecord :=
  (d.userOf? sensorId).bind d.user?

theorem records_put {d : Directory} {r : UserRecord}
    (hu : ¬∃ s ∈ d.records, s.userId = r.userId) :
    (put UserRecord.userId r d.records).Perm (r :: d.records) :=
  put_perm fun s hs h => hu ⟨s, hs, h⟩

theorem sensors_put {d : Directory} {r : UserRecord}
    (hs : ¬∃ l ∈ d.sensors, l.sensorId = r.sensorId) :
    (put Link.sensorId r.link d.sensors).Perm (r.link :: d.sensors) :=
  put_perm fun l hl h => hs ⟨l, hl, h⟩

/-- The directory with one more user. -/
def add (d : Directory) (r : UserRecord) : Except DirectoryError Directory :=
  if hu : ∃ s ∈ d.records, s.userId = r.userId then .error (.duplicateUser r.userId)
  else if hs : ∃ l ∈ d.sensors, l.sensorId = r.sensorId then .error (.duplicateSensor r.sensorId)
  else .ok {
    records := put UserRecord.userId r d.records
    sensors := put Link.sensorId r.link d.sensors
    ascending := d.ascending.put
    sensors_ascending := d.sensors_ascending.put
    linked := ((sensors_put hs).trans (d.linked.cons r.link)).trans ((records_put hu).map _).symm }

/-- The directory with more users, added in this order. -/
def addAll (d : Directory) : List UserRecord → Except DirectoryError Directory
  | [] => .ok d
  | r :: rs => do (← d.add r).addAll rs

/-- The directory of the records of a payload. -/
def ofRecords (records : List UserRecord) : Except DirectoryError Directory :=
  empty.addAll records

end Directory

end LightArbiter
