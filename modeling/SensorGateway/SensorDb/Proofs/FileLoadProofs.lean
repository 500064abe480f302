import SensorGateway.SensorDb.FileLoad
import SensorGateway.SensorDb.Proofs.DatabaseProofs
import SensorGateway.SensorDb.Proofs.FileProofs

/-!
# A file of measurements in the database

The loop stores the measurements of the file one by one, up to the first whose statement goes wrong.
-/

namespace SensorGateway

variable {exec : Sqlite} {tail : List UInt8}

end SensorGateway
