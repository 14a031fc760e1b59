import LightArbiter.Ascending

/-!
# Occupancy

The last reading of each sensor that has reported. A sensor that has not reported sees nobody.
-/

namespace LightArbiter

/-- The last readings, in ascending order of the sensors' ids. -/
structure Occupancy where
  readings : List (String × Bool)
  ascending : Ascending Prod.fst readings

namespace Occupancy

/-- Occupancy is determined by its readings. -/
@[ext] theorem ext {o p : Occupancy} (h : o.readings = p.readings) : o = p := by
  cases o; cases p; cases h; rfl

instance : DecidableEq Occupancy := fun _ _ =>
  decidable_of_iff _ ⟨Occupancy.ext, congrArg readings⟩

/-- No sensor has reported. -/
def empty : Occupancy := ⟨[], .nil⟩

instance : Inhabited Occupancy := ⟨empty⟩

/-- The number of sensors that have reported. -/
def size (o : Occupancy) : Nat := o.readings.length

/-- The last reading of a sensor. -/
def reading? (o : Occupancy) (sensorId : String) : Option Bool :=
  (lookup Prod.fst sensorId o.readings).map Prod.snd

/-- Does the sensor see somebody? -/
def isOccupied (o : Occupancy) (sensorId : String) : Bool :=
  (o.reading? sensorId).getD false

/-- Does any sensor see somebody? -/
def anyPresent (o : Occupancy) : Bool :=
  o.readings.any Prod.snd

/-- Occupancy after a reading of a sensor. -/
def set (o : Occupancy) (sensorId : String) (occupied : Bool) : Occupancy :=
  ⟨put Prod.fst (sensorId, occupied) o.readings, o.ascending.put⟩

@[simp] theorem reading?_empty (sensorId : String) : empty.reading? sensorId = none := rfl

/-- A reading counts for its own sensor and for no other. -/
theorem reading?_set (o : Occupancy) (sensorId other : String) (occupied : Bool) :
    (o.set sensorId occupied).reading? other =
      if sensorId = other then some occupied else o.reading? other := by
  simp only [reading?, set, lookup_put]
  split <;> rfl

theorem isOccupied_set (o : Occupancy) (sensorId other : String) (occupied : Bool) :
    (o.set sensorId occupied).isOccupied other =
      if sensorId = other then occupied else o.isOccupied other := by
  simp only [isOccupied, reading?_set]
  split <;> rfl

end Occupancy

end LightArbiter
