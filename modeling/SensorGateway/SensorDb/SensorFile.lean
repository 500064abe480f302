import Mathlib.Data.List.OfFn
import SensorGateway.Connmgr.Wire
import SensorGateway.Gateway.Storage

/-!
# The binary file of measurements

The records that `file_creator.c` writes and `insert_sensor_from_file` reads, on a 64-bit platform.
The variables that `fread` fills are on the stack; a read that the end of the file cuts short fills
the first bytes only. The outcomes of the `sqlite3_exec` calls are a parameter.
-/

namespace SensorGateway

open LittleEndian

/-- The three `fwrite` calls for one measurement in `file_creator.c`. -/
def Measurement.fileBytes (m : Measurement) : List UInt8 :=
  leBytes 2 m.id.toNat ++ leBytes 8 m.value.toNat ++ leBytes 8 m.ts.toUInt64.toNat

/-- `fread(&buffer, n, 1, file)`: the number of items read, the bytes of the buffer and the rest of
    the file. -/
def fread {n : Nat} (buffer : Fin n → UInt8) (file : List UInt8) :
    Nat × (Fin n → UInt8) × List UInt8 :=
  (if n ≤ file.length then 1 else 0, fun k => file.getD k (buffer k), file.drop n)

/-- `sensor_bfr`, `temperature_bfr` and `time_bfr` -/
structure FileVariables where
  sensorBfr : Fin 2 → UInt8
  temperatureBfr : Fin 8 → UInt8
  timeBfr : Fin 8 → UInt8

/-- The values of the variables. -/
def FileVariables.data (vars : FileVariables) : Measurement where
  id := UInt16.ofNat (leNat (List.ofFn vars.sensorBfr))
  value := UInt64.ofNat (leNat (List.ofFn vars.temperatureBfr))
  ts := Int64.ofNat (leNat (List.ofFn vars.timeBfr))

/-- The loop of `insert_sensor_from_file`, where a call of `insert_sensor` gives the next `σ` and
    its result: the last `σ` and the result; none when the fuel runs out. -/
def insertFromFileLoop {σ : Type} (insert : σ → Measurement → σ × Int) :
    Nat → FileVariables → List UInt8 → σ → Option (σ × Int)
  | 0, _, _, _ => none
  | fuel + 1, vars, file, s =>
    let (read, sensorBfr, file) := fread vars.sensorBfr file
    if read > 0 then
      let (_, temperatureBfr, file) := fread vars.temperatureBfr file
      let (_, timeBfr, file) := fread vars.timeBfr file
      let vars : FileVariables := ⟨sensorBfr, temperatureBfr, timeBfr⟩
      let (s, result) := insert s vars.data
      if result = -1 then some (s, -1) else insertFromFileLoop insert fuel vars file s
    else some (s, 0)

/-- The calls of `insert_sensor` with the outcomes `exec`: their arguments, and the result of the
    last. -/
def recordInsert (exec : Nat → Int) (inserted : List Measurement) (m : Measurement) :
    List Measurement × Int :=
  (inserted ++ [m], insertSensor (exec inserted.length))

/-- `insert_sensor_from_file`: the arguments of the calls of `insert_sensor`, and the result.
    `stale` is what the stack holds; every pass of the loop takes a byte of the file at least. -/
def insertSensorFromFile (exec : Nat → Int) (stale : FileVariables) (sensorData : List UInt8) :
    Option (List Measurement × Int) :=
  insertFromFileLoop (recordInsert exec) (sensorData.length + 1) stale sensorData []

/-! ## The records of a file -/

/-- The size of a record: 2 bytes of id, 8 of value and 8 of time. -/
def fileRecordSize : Nat := 18

/-- The measurement that 18 bytes encode. -/
def decodeRecord (bytes : List UInt8) : Measurement where
  id := UInt16.ofNat (leNat (bytes.take 2))
  value := UInt64.ofNat (leNat ((bytes.drop 2).take 8))
  ts := Int64.ofNat (leNat ((bytes.drop 10).take 8))

/-- The complete records from the start of a file. -/
def completeRecords (file : List UInt8) : List Measurement :=
  (List.range (file.length / fileRecordSize)).map fun k =>
    decodeRecord ((file.drop (fileRecordSize * k)).take fileRecordSize)

end SensorGateway
