import SensorGateway.Connmgr.Connmgr
import SensorGateway.Datamgr.Datamgr
import SensorGateway.Gateway.Threads
import SensorGateway.SensorDb.Database

/-!
# The whole gateway process

`Gateway` with what its threads really do: the connection manager runs `iterate` and inserts the
measurements of the iteration one by one, the data manager updates its sensor list, the storage
manager its database. The threads meet in the shared buffer and in the flag only, so an iteration
may be computed before its insertions. The data manager computes with the values `K` that the
`double`s stand for, NaN and the infinities among them, and with the arithmetic on these.
-/

namespace SensorGateway

variable {K : Type}

/-- The sensor list of the data manager and the messages it has given to `write_to_FIFO`. -/
structure DatamgrState (K : Type) where
  sensorList : List (Sensor K)
  messages : List (DatamgrMessage K)

/-- The private state of the consumers. That of the data manager is lost when it dereferences
    NULL. -/
def ManagerState (K : Type) : Consumer → Type
  | .datamgr => Option (DatamgrState K)
  | .storagemgr => Database

/-- What a build of the gateway fixes, and what it meets outside: `sqlite3_exec` and the outcomes of
    `init_connection`. -/
structure GatewayConfig (K : Type) [LT K] where
  timeout : Int
  datamgr : DatamgrConfig K
  exec : Sqlite
  initConnection : Nat → Bool
  /-- the value that the bits of a `double` stand for -/
  double : UInt64 → K

/-- The measurement as the data manager computes with it. -/
def Measurement.sensorData (double : UInt64 → K) (m : Measurement) : SensorData K :=
  ⟨m.id, double m.value, m.ts.toInt⟩

variable [Add K] [Sub K] [Mul K] [Div K] [IntCast K] [LT K] [DecidableLT K]

/-- The loop body of `datamgr_parse_sensor_data`. -/
def DatamgrState.parse (cfg : DatamgrConfig K) (data : SensorData K) (acc : DatamgrState K) :
    Option (DatamgrState K) := do
  let (sensorList, message) ← parseSensorData cfg data acc.sensorList
  some ⟨sensorList, acc.messages ++ message.toList⟩

/-- The loop bodies of the two consumers. -/
def GatewayConfig.setup (cfg : GatewayConfig K) : Setup Measurement (ManagerState K) where
  initConnection := cfg.initConnection
  process := fun c m acc =>
    match c, acc with
    | .datamgr, acc => Option.bind acc (DatamgrState.parse cfg.datamgr (m.sensorData cfg.double))
    | .storagemgr, db => (Database.insertSensor cfg.exec db m).2

structure System (K : Type) where
  gateway : Gateway Measurement (ManagerState K)
  connmgr : Connmgr
  /-- the insertions of the iteration that are still to be made; none before it has run -/
  toInsert : Option (List Measurement)

/-- The calls of `sbuffer_insert` among what the connection manager does. -/
def insertions (log : List ConnmgrEvent) : List Measurement :=
  log.flatMap fun
    | .inserted _ data => [data]
    | _ => []

inductive SystemAction where
  /-- an iteration of `manage_connection` runs -/
  | iterate (input : IterationInput)
  | thread (a : Action Measurement)

namespace System

/-- The state in which the threads are created: the connection manager has called `server_create`,
    the data manager has read its map file, and the storage manager finds this content of the
    database. -/
def start (connmgr : Connmgr) (sensorList : List (Sensor K)) (db : Database) : System K where
  gateway := Gateway.init fun
    | .datamgr => some ⟨sensorList, []⟩
    | .storagemgr => db
  connmgr := connmgr
  toInsert := none

/-- A step of the threads, with what the iteration has still to insert afterwards. -/
def threadStep (cfg : GatewayConfig K) (s : System K) (a : Action Measurement)
    (toInsert : Option (List Measurement)) : Option (System K) := do
  let gateway ← s.gateway.step cfg.setup a
  some { s with gateway := gateway, toInsert := toInsert }

def iterate (cfg : GatewayConfig K) (s : System K) (input : IterationInput) : Option (System K) :=
  if s.gateway.connmgr = .iteration ∧ s.toInsert = none then do
    let connmgr ← SensorGateway.iterate cfg.timeout s.connmgr input
    some { s with
      connmgr := connmgr
      toInsert := some (insertions (connmgr.log.drop s.connmgr.log.length)) }
  else none

/-- The insertions are those of the iteration, in their order; the iteration ends when they are
    made, and it is the last one if `manage_connection` has left its loop. -/
def step (cfg : GatewayConfig K) (s : System K) : SystemAction → Option (System K)
  | .iterate input => s.iterate cfg input
  | .thread (.sbufferInsert m) =>
    match s.toInsert with
    | some (next :: rest) =>
      if m = next then s.threadStep cfg (.sbufferInsert m) (some rest) else none
    | _ => none
  | .thread .connmgrNext =>
    if s.toInsert = some [] ∧ s.connmgr.exited = false then s.threadStep cfg .connmgrNext none
    else none
  | .thread .connmgrReturn =>
    if s.toInsert = some [] ∧ s.connmgr.exited = true then s.threadStep cfg .connmgrReturn none
    else none
  | .thread a => s.threadStep cfg a s.toInsert

end System

end SensorGateway
