import SensorGateway.Connmgr.Wire
import SensorGateway.Gateway.Log
import SensorGateway.SensorDb.SelectSql

/-!
# The database

`init_connection`, `insert_sensor` and the `find_sensor_*` functions on the content of the database.
`sqlite3_exec` is a parameter: from a statement and the content it gives its result, the rows on
which the callback is called, and the new content. `SqliteSpec` says what the functions rely on.
-/

namespace SensorGateway

open Decimal Binary64

/-- The rows of the table; none when there is no table. -/
abbrev Database := Option (List Row)

structure Executed where
  rc : Int
  visited : List Row
  database : Database
deriving DecidableEq, Repr

abbrev Sqlite := List Char → Database → Executed

/-! ## The statements -/

/-- The columns of the table. -/
def columnsText : List Char :=
  (" (id INTEGER,sensor_id INT,sensor_value DECIMAL(4 , 2),timestamp TIMESTAMP," ++
    "PRIMARY KEY(id));").toList

def dropTable : List Char := "DROP TABLE IF EXISTS ".toList ++ tableName ++ [';']

def createTable : List Char := "CREATE TABLE ".toList ++ tableName ++ columnsText

def createIfMissing : List Char := "CREATE TABLE IF NOT EXISTS ".toList ++ tableName ++ columnsText

/-- What `init_connection` leaves in its buffer of 150 bytes. -/
def initSql (clearUpFlag : Bool) : List Char :=
  (if clearUpFlag then dropTable ++ createTable else createIfMissing).take 149

/-- `%f` of a double, given its bits. -/
def measuredText (bits : UInt64) : List Char :=
  if h : exponentField bits ≠ 2047 then Double.text 6 ⟨bits, h⟩
  else (if negative bits then ['-'] else []) ++
    if fractionField bits = 0 then "inf".toList else "nan".toList

/-- The statement that `insert_sensor` executes. -/
def Measurement.insertSql (m : Measurement) : List Char :=
  (insertHead ++ shortText m.id ++ ',' :: measuredText m.value ++ ',' :: intText m.ts.toInt ++
    [')']).take (sqlSize - 1)

/-- `init_connection`, given whether `sqlite3_open` succeeds: whether it returns a connection, the
    content of the database and the log messages. -/
def initConnection (exec : Sqlite) (opened clearUpFlag : Bool) (db : Database) :
    Bool × Database × List LogMessage :=
  if opened then
    let r := exec (initSql clearUpFlag) db
    if r.rc ≠ sqliteOk then (false, r.database, [.connected])
    else (true, r.database, [.connected, .tableCreated])
  else (false, db, [.connectFailed])

/-- `insert_sensor`: its result and the content of the database. -/
def Database.insertSensor (exec : Sqlite) (db : Database) (m : Measurement) : Int × Database :=
  let r := exec m.insertSql db
  (SensorGateway.insertSensor r.rc, r.database)

end SensorGateway
