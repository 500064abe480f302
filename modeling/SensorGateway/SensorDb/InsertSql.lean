import SensorGateway.Lib.Binary64

/-!
# The INSERT statement

The text that `insert_sensor` leaves in its buffer of 100 bytes, and what a reader of the statement
finds in its VALUES tuple. All the characters of the text are single bytes.
-/

namespace SensorGateway

open Decimal Binary64

/-- `sizeof(sql)` -/
def sqlSize : Nat := 100

/-- `TO_STRING(TABLE_NAME)` -/
def tableName : List Char := "SensorData".toList

/-- The statement up to the first value. -/
def insertHead : List Char :=
  "INSERT INTO ".toList ++ tableName ++ "(sensor_id,sensor_value,timestamp) VALUES(".toList

/-- `%hd` of a `uint16_t`: the low 16 bits are printed with their sign. -/
def shortText (id : UInt16) : List Char := intText id.toInt16.toInt

/-- What the format describes, whatever its length. -/
def insertText (id : UInt16) (value : Double) (ts : Int64) : List Char :=
  insertHead ++ shortText id ++ ',' :: value.text 6 ++ ',' :: intText ts.toInt ++ [')']

/-- `snprintf(sql,100,"INSERT INTO %s(sensor_id,sensor_value,timestamp) VALUES(%hd,%f,%ld)",
    ...)` -/
def insertSql (id : UInt16) (value : Double) (ts : Int64) : List Char :=
  (insertText id value ts).take (sqlSize - 1)

/-- The VALUES tuple of an INSERT statement. -/
def parseInsert (sql : List Char) : Option (Int × ℚ × Int) :=
  if insertHead.isPrefixOf sql then do
    let (id, rest) ← upTo ',' (sql.drop insertHead.length)
    let (value, rest) ← upTo ',' rest
    let (ts, rest) ← upTo ')' rest
    if rest = [] then
      let id ← parseInt id
      let value ← parseFixed value
      let ts ← parseInt ts
      some (id, value, ts)
    else none
  else none

/-- `insert_sensor` writes what it is given: the statement is complete, and its tuple is the id, the
    value rounded to six decimals and the time stamp. -/
structure InsertsGiven (id : UInt16) (value : Double) (ts : Int64) : Prop where
  complete : insertSql id value ts = insertText id value ts
  tuple : ∃ rounded, RoundsToPlaces 6 value.value rounded ∧
    parseInsert (insertSql id value ts) = some ((id.toNat : Int), rounded, ts.toInt)

end SensorGateway
