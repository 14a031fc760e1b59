import LightArbiter.ChaCha
import LightArbiter.Rehearsal

/-!
# Flickering sensors

A fake sensor that reports at regular times. The first reading of every call sees nobody; each other
one is a toss of a coin, taken from the stream of the sensor's seed.
-/

namespace LightArbiter

/-- A sensor that reports at random. -/
structure Flicker where
  sensorId : String
  key : ChaCha.Key
  /-- The time between two readings. -/
  period : Time := 1000
  /-- The number of tosses so far. -/
  tosses : Nat := 0

/-- What a sensor reports at a time. -/
structure Reading where
  time : Time
  occupied : Bool
deriving DecidableEq, Repr

/-- The line that reports a reading of a sensor. -/
def sensorLine (sensorId : String) (occupied : Bool) : String :=
  CommandWord.sensorOccupied.name ++ " " ++ sensorId ++ " " ++ boolText occupied

namespace Flicker

/-- The sensor of a seed. -/
def ofSeed (sensorId : String) (seed : UInt64) : Flicker :=
  { sensorId := sensorId, key := ChaCha.keyOfSeed seed }

/-- The outcome of a toss: heads below the middle of the range. -/
def toss (f : Flicker) (n : Nat) : Bool :=
  ChaCha.doubleWord f.key n < 0x8000000000000000

/-- The number of tosses that some readings take. -/
def tossesFor (count : Nat) : Nat := count - 1

/-- Reading number `n` of a call. -/
def reading (f : Flicker) (start : Time) (n : Nat) : Reading :=
  ⟨start + f.period * n, 0 < n && f.toss (f.tosses + (n - 1))⟩

/-- Some readings from a time on, and the sensor after them. -/
def readings (f : Flicker) (start : Time) (count : Nat) : List Reading × Flicker :=
  ((List.range count).map (f.reading start), { f with tosses := f.tosses + tossesFor count })

/-- The lines that report readings. -/
def script (f : Flicker) (readings : List Reading) : List Cue :=
  readings.map fun r => ⟨r.time, sensorLine f.sensorId r.occupied⟩

end Flicker

end LightArbiter
