import SensorGateway.Datamgr.Datamgr
import SensorGateway.Dplist.Boxed

/-!
# The data manager over the nodes of its lists

`datamgr_parse_sensor_data` with `sensorList` as it lies in memory: linked nodes with pointers to
`sensor_t`s, each with a list of its own whose nodes point to `double`s. Every call may fault.
-/

namespace SensorGateway

open PtrHeap DoublyLinked

/-- A `sensor_t *`. The callbacks see the id, which is set before the pointer is in the list and
    does not change afterwards. -/
structure SensorPointer where
  block : Nat
  sensorId : UInt16
deriving DecidableEq, Repr

/-- `sensor_t` in memory; the elements of `temperatures` are the blocks of the `double`s. -/
structure LinkedSensor (K : Type := ℚ) where
  sensorId : UInt16
  roomId : UInt16
  runningAvg : K
  lastModified : Int
  temperatures : Dplist Nat Nat

variable {K : Type}

/-- The sensor, when its temperatures have these values. -/
def LinkedSensor.withTemperatures (sensor : LinkedSensor K) (temperatures : List K) : Sensor K where
  sensorId := sensor.sensorId
  roomId := sensor.roomId
  runningAvg := sensor.runningAvg
  lastModified := sensor.lastModified
  temperatures := temperatures

structure LinkedDatamgr (K : Type := ℚ) where
  sensorList : Dplist SensorPointer Nat
  sensors : Heap (LinkedSensor K)
  doubles : Heap K

/-- The allocators for nodes and for what the nodes point to, and the callbacks for copies and
    releases that the program registers for both lists and that its calls, but for `datamgr_free`,
    never reach. -/
structure DatamgrMemory (K : Type := ℚ) where
  sensorNodes : Allocator (Node (Option SensorPointer))
  temperatureNodes : Allocator (Node (Option Nat))
  sensors : Allocator (LinkedSensor K)
  doubles : Allocator K
  sensorCallbacks : Callbacks SensorPointer Nat
  temperatureCallbacks : Callbacks Nat Nat

namespace DatamgrMemory

/-- The callbacks of `sensorList`. -/
def sensorListCallbacks (c : DatamgrMemory K) : Callbacks SensorPointer Nat :=
  { c.sensorCallbacks with
    elementCompare := fun sensor1 sensor2 => sensorCompare sensor1.sensorId sensor2.sensorId
    block := SensorPointer.block }

/-- `dpl_create` for the temperatures of a sensor. -/
def createTemperatures (c : DatamgrMemory K) : Dplist Nat Nat :=
  dplCreate { c.temperatureCallbacks with block := id }

end DatamgrMemory

namespace LinkedDatamgr

def start (c : DatamgrMemory K) : LinkedDatamgr K where
  sensorList := dplCreate c.sensorListCallbacks
  sensors := Heap.empty
  doubles := Heap.empty

/-! ## The map file -/

def insertSensorEntry (c : DatamgrMemory K) (room sensor : UInt16) (junk : Uninitialised K)
    (s : LinkedDatamgr K) : Except Fault (LinkedDatamgr K) := do
  let block := c.sensors.malloc s.sensors
  let sensors := s.sensors.write block
    ⟨sensor, room, junk.runningAvg, junk.lastModified, c.createTemperatures⟩
  let sensorList ← dplInsertAtIndex c.sensorNodes s.sensorList (some ⟨block, sensor⟩) 150 false
  .ok { s with sensorList := sensorList, sensors := sensors }

def readMap (c : DatamgrMemory K) (sensorBfr : UInt16) (junk : Nat → Uninitialised K)
    (s : LinkedDatamgr K) :
    List MapToken → Except Fault (LinkedDatamgr K)
  | .number room :: .number sensor :: rest => do
    let s ← insertSensorEntry c (UInt16.ofInt room) (UInt16.ofInt sensor) (junk 0) s
    readMap c (UInt16.ofInt sensor) (fun k => junk (k + 1)) s rest
  | .number room :: _ => insertSensorEntry c (UInt16.ofInt room) sensorBfr (junk 0) s
  | _ => .ok s

/-! ## A measurement -/

section Update

variable [Add K] [Sub K] [Mul K] [Div K] [IntCast K] [LT K]

/-- The update of `running_avg`, `temperatures` and `last_modified`. -/
def updateSensor (c : DatamgrMemory K) (cfg : DatamgrConfig K) (data : SensorData K)
    (doubles : Heap K) (sensor : LinkedSensor K) : Except Fault (LinkedSensor K × Heap K) := do
  let addedElement := c.doubles.malloc doubles
  let doubles := doubles.write addedElement data.value
  let temperatures ← dplInsertAtIndex c.temperatureNodes sensor.temperatures
    (some addedElement) (-1) false
  let sizeTemp ← dplSize temperatures
  let first ← dplGetElementAtIndex temperatures 0
  let firstElement ← doubles.load (temperatures.pointer first)
  if sizeTemp ≤ cfg.runAvgLength then
    .ok ({ sensor with
      temperatures := temperatures
      runningAvg := fillingAvg sensor.runningAvg firstElement sizeTemp
      lastModified := data.ts }, doubles)
  else
    let last ← dplGetElementAtIndex temperatures cfg.runAvgLength
    let remove ← doubles.load (temperatures.pointer last)
    let (temperatures, doubles) ← removeBoxed temperatures doubles cfg.runAvgLength
    .ok ({ sensor with
      temperatures := temperatures
      runningAvg := slidingAvg sensor.runningAvg remove firstElement sizeTemp
      lastModified := data.ts }, doubles)

variable [DecidableLT K]

/-- The body of the loop for a measurement that was read. The list is searched with a pointer to the
    id, the first field of a `sensor_t`. The messages read the fields of the sensor only. -/
def parseSensorData (c : DatamgrMemory K) (cfg : DatamgrConfig K) (data : SensorData K)
    (s : LinkedDatamgr K) : Except Fault (LinkedDatamgr K × Option (DatamgrMessage K)) := do
  let index ← dplGetIndexOfElement s.sensorList (some ⟨0, data.id⟩)
  if index ≥ 0 then
    let element ← dplGetElementAtIndex s.sensorList index
    let sensor ← s.sensors.load (s.sensorList.pointer element)
    let (sensor, doubles) ← updateSensor c cfg data s.doubles sensor
    let sensors ← s.sensors.modify (s.sensorList.pointer element) fun _ => sensor
    .ok ({ s with sensors := sensors, doubles := doubles },
      temperatureMessage cfg data (sensor.withTemperatures []))
  else .ok (s, some (.invalidId data.id))

/-- The state after a sequence of measurements. -/
def parseAll (c : DatamgrMemory K) (cfg : DatamgrConfig K) (s : LinkedDatamgr K) :
    List (SensorData K) → Except Fault (LinkedDatamgr K)
  | [] => .ok s
  | data :: rest => do
    let (s, _) ← parseSensorData c cfg data s
    parseAll c cfg s rest

/-- `datamgr_parse_sensor_data` up to its end, when it has read these measurements. -/
def runDatamgr (c : DatamgrMemory K) (cfg : DatamgrConfig K) (sensorBfr : UInt16)
    (junk : Nat → Uninitialised K) (map : List MapToken) (ms : List (SensorData K)) :
    Except Fault (LinkedDatamgr K) := do
  let s ← readMap c sensorBfr junk (start c) map
  parseAll c cfg s ms

end Update

/-! ## The release -/

/-- What `datamgr_free` leaves, and what it has released of the temperatures of each sensor. -/
structure FreedDatamgr (K : Type := ℚ) where
  nodes : Heap (Node (Option SensorPointer))
  sensors : Heap (LinkedSensor K)
  doubles : Heap K
  released : List (List (Release Nat))

/-- `sensor_free`: `dpl_free(&temperatures, false)`, then the sensor. -/
def sensorFree (sensors : Heap (LinkedSensor K)) (doubles : Heap K) (sensor : Ptr) :
    Except Fault (Heap (LinkedSensor K) × Heap K × List (Release Nat)) := do
  let object ← sensors.load sensor
  let released ← dplFree object.temperatures false
  let doubles ← freeBlocks doubles (elementBlocks released)
  let sensors ← sensors.free sensor
  .ok (sensors, doubles, released)

/-- The loop of `dpl_free(&sensorList, true)` over the nodes from `temp` on. The callback leaves
    NULL in the element field. -/
def freeLoop (callbacks : Callbacks SensorPointer Nat) :
    Nat → Ptr → FreedDatamgr K → Except Fault (FreedDatamgr K)
  | 0, _, _ => .error .diverges
  | _ + 1, none, s => .ok s
  | fuel + 1, some a, s => do
    let temp ← s.nodes.load (some a)
    match temp.element with
    | none =>
      let nodes ← s.nodes.free (some a)
      freeLoop callbacks fuel temp.next { s with nodes := nodes }
    | some sensor =>
      let (sensors, doubles, released) ←
        sensorFree s.sensors s.doubles (some (callbacks.block sensor))
      let nodes ← s.nodes.free (some a)
      freeLoop callbacks fuel temp.next ⟨nodes, sensors, doubles, s.released ++ [released]⟩

def datamgrFree (s : LinkedDatamgr K) : Except Fault (FreedDatamgr K) :=
  freeLoop s.sensorList.callbacks s.sensorList.fuel s.sensorList.head
    ⟨s.sensorList.heap, s.sensors, s.doubles, []⟩

/-! ## Queries

The loops read the size of the list anew in every pass; `none` is the exit of `ERROR_HANDLER`. -/

def readSensorLoop {α : Type} (s : LinkedDatamgr K) (sensorId : UInt16)
    (field : LinkedSensor K → α) :
    Nat → Int → Except Fault (Option α)
  | 0, _ => .error .diverges
  | fuel + 1, index => do
    let size ← dplSize s.sensorList
    if index < size then
      let element ← dplGetElementAtIndex s.sensorList index
      let desiredSensor ← s.sensors.load (s.sensorList.pointer element)
      if desiredSensor.sensorId = sensorId then .ok (some (field desiredSensor))
      else readSensorLoop s sensorId field fuel (index + 1)
    else .ok none

def readSensor {α : Type} (s : LinkedDatamgr K) (sensorId : UInt16) (field : LinkedSensor K → α) :
    Except Fault (Option α) :=
  readSensorLoop s sensorId field s.sensorList.fuel 0

def datamgrGetRoomId (s : LinkedDatamgr K) (sensorId : UInt16) : Except Fault (Option UInt16) :=
  s.readSensor sensorId LinkedSensor.roomId

def datamgrGetAvg (s : LinkedDatamgr K) (sensorId : UInt16) : Except Fault (Option K) :=
  s.readSensor sensorId LinkedSensor.runningAvg

def datamgrGetLastModified (s : LinkedDatamgr K) (sensorId : UInt16) : Except Fault (Option Int) :=
  s.readSensor sensorId LinkedSensor.lastModified

def datamgrGetTotalSensors (s : LinkedDatamgr K) : Except Fault Int :=
  dplSize s.sensorList

end LinkedDatamgr

end SensorGateway
