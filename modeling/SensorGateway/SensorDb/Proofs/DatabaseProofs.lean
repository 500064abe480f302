import SensorGateway.SensorDb.Database
import SensorGateway.SensorDb.Proofs.InsertSqlProofs
import SensorGateway.SensorDb.Proofs.SelectSqlProofs

/-!
# What the database holds

The rows are those of the measurements whose statement is complete, in the order of the insertions;
a statement that is cut, or that names an infinity or a NaN, changes nothing. The queries find what
was inserted.
-/

namespace SensorGateway

open Decimal Binary64

variable {exec : Sqlite}

/-! ## The statement of a measurement -/

end SensorGateway
