import Mathlib.Data.List.Perm.Subperm
import SensorGateway.Gateway.Threads

/-!
# The storage manager

What `get_sbuffer_data` does with a measurement: one call of `insert_sensor`, whose result it
ignores. The outcomes of the `sqlite3_exec` calls are a parameter.
-/

namespace SensorGateway

variable {α : Type}

def sqliteOk : Int := 0

/-- `insert_sensor`, given the result `rc` of its `sqlite3_exec` call. -/
def insertSensor (rc : Int) : Int := if rc ≠ sqliteOk then -1 else 0

/-- The private state of the consumers: the storage manager's is the list of its calls of
    `insert_sensor`, each with the measurement and the result. -/
def StorageState (α : Type) : Consumer → Type
  | .datamgr => Unit
  | .storagemgr => List (α × Int)

def StorageState.init : (c : Consumer) → StorageState α c
  | .datamgr => ()
  | .storagemgr => []

/-- The gateway with the given outcomes of `init_connection` and of the calls of `sqlite3_exec`, in
    the order in which they are made. -/
def storageSetup (initConnection : Nat → Bool) (exec : Nat → Int) :
    Setup α (StorageState α) where
  initConnection := initConnection
  process := fun c m acc =>
    match c, acc with
    | .datamgr, acc => acc
    | .storagemgr, calls => List.append calls [(m, insertSensor (exec (List.length calls)))]

/-- The measurements whose `insert_sensor` returned 0. -/
def stored (calls : List (α × Int)) : List α :=
  (calls.filter fun call => call.2 = 0).map Prod.fst

/-- The measurements whose `insert_sensor` failed. -/
def failed (calls : List (α × Int)) : List α :=
  (calls.filter fun call => call.2 ≠ 0).map Prod.fst

/-- Everything that was removed from the buffer was stored, occurrence by occurrence, and everything
    that could not be stored is still in the buffer. -/
def NothingLost (s : Gateway α (StorageState α)) : Prop :=
  s.removed.Subperm (stored (s.acc .storagemgr)) ∧
  ∀ m ∈ failed (s.acc .storagemgr), m ∈ s.buffer

end SensorGateway
