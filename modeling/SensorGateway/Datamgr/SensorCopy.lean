import SensorGateway.Datamgr.LinkedDatamgr

/-!
# The copy of a sensor

`sensor_copy` on a sensor with its temperatures in memory, and what a program that uses the copy can
see of it: the temperatures it holds, and the running averages when the data manager's update is
applied to the sensor and to the copy. Both lists point into the one memory of the `double`s.
-/

namespace SensorGateway

open PtrHeap

namespace LinkedDatamgr

variable {K : Type} [LT K]

/-- One pass of the loop of `sensor_copy`. -/
def copyTemperature (c : DatamgrMemory K) (original temperatures : Dplist Nat Nat) (i : Nat) :
    Except Fault (Dplist Nat Nat) := do
  let element ← dplGetElementAtIndex original i
  dplInsertAtIndex c.temperatureNodes temperatures element i false

/-- `sensor_copy`. The elements are not copied, and `running_avg` keeps what `malloc` left there,
    `junk`. -/
def sensorCopy (c : DatamgrMemory K) (cfg : DatamgrConfig K) (junk : K) (sensor : LinkedSensor K) :
    Except Fault (LinkedSensor K) := do
  let temperatures ← (List.range cfg.runAvgLength).foldlM (copyTemperature c sensor.temperatures)
    c.createTemperatures
  .ok {
    sensorId := sensor.sensorId
    roomId := sensor.roomId
    runningAvg := junk
    lastModified := sensor.lastModified
    temperatures := temperatures }

/-- The temperatures of a sensor, read as in `print_sensor_list`. -/
def readTemperatures (doubles : Heap K) (temperatures : Dplist Nat Nat) :
    Except Fault (List K) := do
  let size ← dplSize temperatures
  (List.range size.toNat).mapM fun (j : Nat) => do
    let element ← dplGetElementAtIndex temperatures j
    doubles.load (temperatures.pointer element)

section Update

variable [Add K] [Sub K] [Mul K] [Div K] [IntCast K]

/-- The running averages of two sensors after each measurement has updated the first and then the
    second. -/
def averagesAfter (c : DatamgrMemory K) (cfg : DatamgrConfig K) (doubles : Heap K)
    (first second : LinkedSensor K) : List (SensorData K) → Except Fault (K × K)
  | [] => .ok (first.runningAvg, second.runningAvg)
  | data :: rest => do
    let (first, doubles) ← updateSensor c cfg data doubles first
    let (second, doubles) ← updateSensor c cfg data doubles second
    averagesAfter c cfg doubles first second rest

/-- Whatever is measured next, the two get the same averages. -/
def AveragesAgree (c : DatamgrMemory K) (cfg : DatamgrConfig K) (doubles : Heap K)
    (first second : LinkedSensor K) : Prop :=
  ∀ ms, ∃ avg, averagesAfter c cfg doubles first second ms = .ok (avg, avg)

/-- The copy is a duplicate: it has the fields of the sensor, its temperatures have the same values
    in the same order, and the updates go on alike, whichever of the two is updated first. -/
structure Duplicates (c : DatamgrMemory K) (cfg : DatamgrConfig K) (doubles : Heap K)
    (sensor copy : LinkedSensor K) : Prop where
  sensorId : copy.sensorId = sensor.sensorId
  roomId : copy.roomId = sensor.roomId
  lastModified : copy.lastModified = sensor.lastModified
  runningAvg : copy.runningAvg = sensor.runningAvg
  temperatures : readTemperatures doubles copy.temperatures =
    readTemperatures doubles sensor.temperatures
  averages : AveragesAgree c cfg doubles sensor copy ∨ AveragesAgree c cfg doubles copy sensor

end Update

end LinkedDatamgr

end SensorGateway
