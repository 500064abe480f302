import Mathlib.Order.Interval.Set.UnorderedInterval
import SensorGateway.Lib.Words
import SensorGateway.Gateway.Storage
import SensorGateway.SensorDb.InsertSql

/-!
# The SELECT statements

The texts that the `find_sensor_*` functions leave in their buffers of 100 bytes, the condition that
a reader finds in them, and the rows on which the callback is called. `sqlite3_exec` is a parameter:
from a statement and the rows of the table, its result and the rows that it visits.
-/

namespace SensorGateway

open Decimal Binary64 Words

/-! ## Rows and conditions -/

/-- A row of the table; the value is in millionths. -/
structure Row where
  id : Int
  sensorId : Int
  micros : Int
  timestamp : Int64
deriving DecidableEq, Repr

inductive Column
  | id
  | sensorId
  | sensorValue
  | timestamp
deriving DecidableEq, Repr

inductive Comparison
  | is
  | greater
deriving DecidableEq, Repr

/-- `CREATE TABLE %s (id INTEGER,sensor_id INT,sensor_value DECIMAL(4 , 2),timestamp
    TIMESTAMP,...)` -/
def Column.name : Column → List Char
  | .id => "id".toList
  | .sensorId => "sensor_id".toList
  | .sensorValue => "sensor_value".toList
  | .timestamp => "timestamp".toList

def Comparison.name : Comparison → List Char
  | .is => "IS".toList
  | .greater => ">".toList

def Row.value (row : Row) : ℚ := row.micros / 10 ^ 6

def Row.cell (row : Row) : Column → ℚ
  | .id => row.id
  | .sensorId => row.sensorId
  | .sensorValue => row.value
  | .timestamp => row.timestamp.toInt

/-- What stands behind WHERE. -/
structure Condition where
  column : Column
  comparison : Comparison
  operand : ℚ
deriving DecidableEq, Repr

def Condition.holds (cond : Condition) (row : Row) : Bool :=
  match cond.comparison with
  | .is => row.cell cond.column = cond.operand
  | .greater => cond.operand < row.cell cond.column

/-! ## Statements -/

def selectHead : List Char := "SELECT * FROM ".toList ++ tableName ++ " WHERE ".toList

/-- The statement up to the blank in front of the number. -/
def selectFront (column : Column) (comparison : Comparison) : List Char :=
  selectHead ++ column.name ++ ' ' :: comparison.name

/-- `snprintf(sql,100,"SELECT * FROM %s WHERE <column> <comparison> <operand> ", ...)` -/
def selectSql (column : Column) (comparison : Comparison) (operand : List Char) : List Char :=
  (selectFront column comparison ++ ' ' :: (operand ++ [' '])).take (sqlSize - 1)

/-- `% ld`: a blank stands where a number without a sign would have it. -/
def spacedText (z : Int) : List Char := if z < 0 then intText z else ' ' :: intText z

def parseColumn (name : List Char) : Option Column :=
  [Column.id, .sensorId, .sensorValue, .timestamp].find? fun column => column.name = name

def parseComparison (name : List Char) : Option Comparison :=
  [Comparison.is, .greater].find? fun comparison => comparison.name = name

/-- The condition of a SELECT statement. -/
def parseSelect (sql : List Char) : Option Condition :=
  if (words ' ' selectHead).isPrefixOf (words ' ' sql) then
    match (words ' ' sql).drop (words ' ' selectHead).length with
    | [column, comparison, operand] => do
      let column ← parseColumn column
      let comparison ← parseComparison comparison
      let operand ← parseNumber operand
      some ⟨column, comparison, operand⟩
    | _ => none
  else none

/-! ## Queries -/

/-- `sqlite3_exec` with a callback that returns 0. -/
abbrev Exec := List Char → List Row → Int × List Row

/-- A SELECT statement visits the rows that meet its condition, and nothing goes wrong. -/
def EvaluatesSelects (exec : Exec) : Prop :=
  ∀ sql cond, parseSelect sql = some cond →
    ∀ table, exec sql table = (sqliteOk, table.filter cond.holds)

/-- What the four functions share: the result and the rows on which the callback is called. -/
def findSensor (exec : Exec) (table : List Row) (sql : List Char) : Int × List Row :=
  let (rc, visited) := exec sql table
  (if rc ≠ sqliteOk then -1 else 0, visited)

/-- `WHERE sensor_value IS %f ` -/
def findSensorByValue (exec : Exec) (table : List Row) (value : Double) : Int × List Row :=
  findSensor exec table (selectSql .sensorValue .is (value.text 6))

/-- `WHERE sensor_value > %f ` -/
def findSensorExceedValue (exec : Exec) (table : List Row) (value : Double) : Int × List Row :=
  findSensor exec table (selectSql .sensorValue .greater (value.text 6))

/-- `WHERE timestamp IS % ld ` -/
def findSensorByTimestamp (exec : Exec) (table : List Row) (ts : Int64) : Int × List Row :=
  findSensor exec table (selectSql .timestamp .is (spacedText ts.toInt))

/-- `WHERE timestamp > % ld ` -/
def findSensorAfterTimestamp (exec : Exec) (table : List Row) (ts : Int64) : Int × List Row :=
  findSensor exec table (selectSql .timestamp .greater (spacedText ts.toInt))

/-- The queries select by the value asked for: the rows with the value as it is stored, those with a
    greater value, those with the time stamp and those with a later one. -/
structure SelectsAsked (exec : Exec) (table : List Row) (value : Double) (ts : Int64) : Prop where
  byValue : findSensorByValue exec table value =
    (0, table.filter fun row => row.value = value.rounded 6)
  exceedValue : findSensorExceedValue exec table value =
    (0, table.filter fun row => value.value < row.value)
  byTimestamp : findSensorByTimestamp exec table ts =
    (0, table.filter fun row => row.timestamp = ts)
  afterTimestamp : findSensorAfterTimestamp exec table ts =
    (0, table.filter fun row => ts < row.timestamp)

/-- No row of the table is in the way of the text of a value. The buffer holds 52 characters of the
    number behind IS and 53 behind the greater sign. -/
structure Undisturbed (table : List Row) (value : Double) : Prop where
  /-- A value is rounded up to no row. -/
  roundedUp : value.wholeLength 6 ≤ 53 → value.value < value.rounded 6 →
    ∀ row ∈ table, row.value ≠ value.rounded 6
  /-- No row is between a value that is too long and its first characters. -/
  cutThreshold : 53 < value.wholeLength 6 →
    ∀ row ∈ table, row.value ∉ Set.uIoc value.value (value.cutWhole 6 53)
  /-- No row has a value that is too long, or that of its first characters. -/
  cutValue : 52 < value.wholeLength 6 →
    ∀ row ∈ table, row.value ≠ value.rounded 6 ∧ row.value ≠ value.cutWhole 6 52

end SensorGateway
