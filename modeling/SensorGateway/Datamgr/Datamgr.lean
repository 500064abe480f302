import Mathlib.Data.Rat.Defs
import SensorGateway.Dplist.Sequence

/-!
# The data manager

The sensor list that `datamgr_parse_sensor_data` builds from the map file, and what its loop does
with one measurement it has read from the shared buffer. The lists are `dplist`s, used through their
calls on sequences; a dereference of NULL gives `none`. The `double`s are a type `K` with its
arithmetic: the rationals, where nothing else is said. Memory that `malloc` leaves uninitialised
holds arbitrary values.
-/

namespace SensorGateway

/-- `sensor_data_t` -/
structure SensorData (K : Type := ℚ) where
  id : UInt16
  value : K
  ts : Int
deriving DecidableEq, Repr

/-- The constants a build of the data manager fixes. -/
structure DatamgrConfig (K : Type := ℚ) [LT K] where
  runAvgLength : Nat
  setMinTemp : K
  setMaxTemp : K
  runAvgLength_pos : 0 < runAvgLength
  setMinTemp_le : ¬ setMaxTemp < setMinTemp

/-- The defaults of `datamgr.h` and of the Makefile. -/
def DatamgrConfig.makefile : DatamgrConfig where
  runAvgLength := 5
  setMinTemp := 10
  setMaxTemp := 20
  runAvgLength_pos := by decide
  setMinTemp_le := by decide

/-- `sensor_t` -/
structure Sensor (K : Type := ℚ) where
  sensorId : UInt16
  roomId : UInt16
  runningAvg : K
  lastModified : Int
  temperatures : List K
deriving DecidableEq, Repr

variable {K : Type}

/-! ## The map file -/

/-- What `%hd` meets: a number, or text it cannot convert. -/
inductive MapToken where
  | number (n : Int)
  | text
deriving DecidableEq, Repr

/-- What `malloc` leaves in the fields of the sensors it allocates. -/
structure Uninitialised (K : Type := ℚ) where
  runningAvg : K
  lastModified : Int

/-- The entry for one pass of the reading loop, inserted at index 150. -/
def insertSensorEntry (room sensor : UInt16) (junk : Uninitialised K)
    (sensorList : List (Sensor K)) : List (Sensor K) :=
  seqInsertAtIndex sensorList 150 ⟨sensor, room, junk.runningAvg, junk.lastModified, []⟩

/-- The loop on `fscanf(fp_sensor_map, "%hd %hd", &room_bfr, &sensor_bfr) > 0`. When only the first
    conversion succeeds `sensor_bfr` keeps its value. `junk` is the memory of the sensors that are
    still to be allocated. -/
def readMap (sensorBfr : UInt16) (junk : Nat → Uninitialised K) (sensorList : List (Sensor K)) :
    List MapToken → List (Sensor K)
  | .number room :: .number sensor :: rest =>
    readMap (UInt16.ofInt sensor) (fun k => junk (k + 1))
      (insertSensorEntry (UInt16.ofInt room) (UInt16.ofInt sensor) (junk 0) sensorList) rest
  | .number room :: _ =>
    insertSensorEntry (UInt16.ofInt room) sensorBfr (junk 0) sensorList
  | _ => sensorList

/-- The sensor list when the loop over the shared buffer starts. -/
def buildSensorList (sensorBfr : UInt16) (junk : Nat → Uninitialised K) (map : List MapToken) :
    List (Sensor K) :=
  readMap sensorBfr junk [] map

/-! ## A measurement -/

/-- The messages that the data manager gives to `write_to_FIFO`. -/
inductive DatamgrMessage (K : Type := ℚ) where
  /-- "The sensor node with %hu reports it’s too cold (running avg temperature = %lf) \n" -/
  | tooCold (id : UInt16) (runningAvg : K)
  /-- "It's too warm in room %hu for sensor %hu with a running average of %lf on %ld \n" -/
  | tooWarm (roomId id : UInt16) (runningAvg : K) (ts : Int)
  /-- "Received sensor data with invalid sensor node ID %d \n" -/
  | invalidId (id : UInt16)
deriving DecidableEq, Repr

def sensorCompare (sensor1 sensor2 : UInt16) : Int :=
  if sensor1 < sensor2 then -1 else if sensor1 = sensor2 then 0 else 1

theorem sensorCompare_eq_zero_iff {a b : UInt16} : sensorCompare a b = 0 ↔ a = b := by
  unfold sensorCompare
  split_ifs with hlt heq
  · exact iff_of_false (by decide) (by rintro rfl; exact UInt16.lt_irrefl _ hlt)
  · exact iff_of_true rfl heq
  · exact iff_of_false (by decide) heq

section Update

variable [Add K] [Sub K] [Mul K] [Div K] [IntCast K] [LT K] [DecidableLT K]

/-- `running_avg` while the list fills. -/
def fillingAvg (runningAvg firstElement : K) (sizeTemp : Int) : K :=
  (runningAvg * ((sizeTemp - 1 : Int) : K) + firstElement) / (sizeTemp : K)

/-- `running_avg` when the value `remove` leaves the list. -/
def slidingAvg (runningAvg remove firstElement : K) (sizeTemp : Int) : K :=
  (((sizeTemp : K) - ((1 : Int) : K)) * runningAvg - remove + firstElement) /
    ((sizeTemp : K) - ((1 : Int) : K))

/-- The update of `running_avg`, `temperatures` and `last_modified`. -/
def updateSensor (cfg : DatamgrConfig K) (data : SensorData K) (sensor : Sensor K) :
    Option (Sensor K) := do
  let temperatures := seqInsertAtIndex sensor.temperatures (-1) data.value
  let sizeTemp := temperatures.length
  let firstElement ← seqGetElementAtIndex temperatures 0
  if sizeTemp ≤ cfg.runAvgLength then
    some { sensor with
      temperatures := temperatures
      runningAvg := fillingAvg sensor.runningAvg firstElement sizeTemp
      lastModified := data.ts }
  else
    let remove ← seqGetElementAtIndex temperatures cfg.runAvgLength
    some { sensor with
      temperatures := seqRemoveAtIndex temperatures cfg.runAvgLength
      runningAvg := slidingAvg sensor.runningAvg remove firstElement sizeTemp
      lastModified := data.ts }

def temperatureMessage (cfg : DatamgrConfig K) (data : SensorData K) (sensor : Sensor K) :
    Option (DatamgrMessage K) :=
  if sensor.runningAvg < cfg.setMinTemp then some (.tooCold data.id sensor.runningAvg)
  else if sensor.runningAvg > cfg.setMaxTemp then
    some (.tooWarm sensor.roomId data.id sensor.runningAvg data.ts)
  else none

/-- The body of the loop for a measurement that was read: the new sensor list and the message. -/
def parseSensorData (cfg : DatamgrConfig K) (data : SensorData K) (sensorList : List (Sensor K)) :
    Option (List (Sensor K) × Option (DatamgrMessage K)) := do
  let index := seqGetIndexOf (fun sensor => sensorCompare sensor.sensorId data.id = 0) sensorList
  if index ≥ 0 then
    let sensor ← seqGetElementAtIndex sensorList index
    let sensor ← updateSensor cfg data sensor
    some (sensorList.set index.toNat sensor, temperatureMessage cfg data sensor)
  else some (sensorList, some (.invalidId data.id))

/-- The sensor list after a sequence of measurements. -/
def parseAll (cfg : DatamgrConfig K) (sensorList : List (Sensor K)) :
    List (SensorData K) → Option (List (Sensor K))
  | [] => some sensorList
  | data :: rest => do
    let (sensorList, _) ← parseSensorData cfg data sensorList
    parseAll cfg sensorList rest

end Update

end SensorGateway
