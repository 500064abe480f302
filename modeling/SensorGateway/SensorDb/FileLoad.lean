import SensorGateway.SensorDb.Database
import SensorGateway.SensorDb.SensorFile

/-!
# Loading a file of measurements into the database

`insert_sensor_from_file` with the statements that its calls of `insert_sensor` really execute.
-/

namespace SensorGateway

/-- `insert_sensor_from_file` on the content of the database, where `stale` is what the stack
    holds. -/
def Database.insertSensorFromFile (exec : Sqlite) (stale : FileVariables) (db : Database)
    (sensorData : List UInt8) : Option (Database × Int) :=
  insertFromFileLoop (fun db m => (Database.insertSensor exec db m).swap)
    (sensorData.length + 1) stale sensorData db

end SensorGateway
