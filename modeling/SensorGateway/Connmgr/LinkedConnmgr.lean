import SensorGateway.Connmgr.Connmgr
import SensorGateway.Dplist.Boxed
import SensorGateway.Dplist.Release

/-!
# The connection manager over the nodes of its list

`manage_connection` with `connections_to_server` as it lies in memory: linked nodes with pointers to
`sensor_socket_t`s, which `callback_copy` allocates and the removals free. A step may fault. The
field `connections` of `server` is not used here.
-/

namespace SensorGateway

open PtrHeap DoublyLinked

abbrev NodeAllocator (E : Type) := Allocator (Node (Option E))

structure LinkedConnmgr where
  server : Connmgr
  /-- `connections_to_server`; `connmgr_free` makes it NULL -/
  list : Dplist ConnectionElement Nat
  memory : Heap SensorSocket
  /-- what the `dpl_free` of `connmgr_free` released, once it was called -/
  released : Option (List (Release Nat))

namespace LinkedConnmgr

/-- The head of `manage_connection`. The list gets the block that `callback_copy` has filled. -/
def start (sd : Nat) (fd : Nat → PollFd) (time : Int) : LinkedConnmgr where
  server := serverCreate sd fd time
  list := dplCreate (connectionCallbacks id)
  memory := Heap.empty
  released := none

/-- The branch for a connection request. -/
def accept (mn : NodeAllocator ConnectionElement) (m : Allocator SensorSocket) (s : LinkedConnmgr)
    (listSize : Nat) (result : Accept) (time : Int) : Except Fault LinkedConnmgr := do
  let newSensor := ⟨firstSensorId, newSocket result, time, s.server.accepted⟩
  let copy := m.malloc s.memory
  let size ← dplSize s.list
  let list ← dplInsertAtIndex mn s.list (some ⟨copy⟩) size true
  .ok { s with
    server := s.server.accept listSize result time
    list := list
    memory := s.memory.write copy newSensor }

/-- The state up to the test for an idle server. -/
def prepare (mn : NodeAllocator ConnectionElement) (m : Allocator SensorSocket) (s : LinkedConnmgr)
    (listSize : Nat) (input : IterationInput) : Except Fault LinkedConnmgr :=
  let server := ((s.server.poll input.report (listSize + 1)).resize listSize).touch [0]
  let s := { s with server := server }
  if (server.fd 0).revents.pollin then
    s.accept mn m listSize input.accept input.acceptTime
  else .ok s

/-- The loop body for the connection at index `i`, but for its removal. -/
def store (s : LinkedConnmgr) (i : Nat) (sensor : Ptr) (r : Served) :
    Except Fault LinkedConnmgr := do
  let memory ← s.memory.modify sensor fun _ => r.sensor
  .ok { s with server := s.server.store i r, memory := memory }

def removeSensor (s : LinkedConnmgr) (i listSize : Nat) : Except Fault LinkedConnmgr := do
  let (list, memory) ← removeBoxed s.list s.memory i
  .ok { s with server := s.server.removeSensor i listSize, list := list, memory := memory }

/-- The loop over the connections, with `n` of the `listSize` passes left. -/
def sensorLoop (timeout : Int) (input : IterationInput) (listSize : Nat) :
    Nat → Nat → LinkedConnmgr → Except Fault LinkedConnmgr
  | 0, _, s => .ok s
  | n + 1, i, s => do
    let element ← dplGetElementAtIndex s.list i
    let sensor ← s.memory.load (s.list.pointer element)
    let r := serveSensor timeout (input.sensor i) (s.server.fd (i + 1)).revents sensor
    let s ← s.store i (s.list.pointer element) r
    if r.removed then s.removeSensor i listSize
    else sensorLoop timeout input listSize n (i + 1) s

/-- `connmgr_free` and the exit. -/
def exit (s : LinkedConnmgr) : Except Fault LinkedConnmgr := do
  let released ← dplFree s.list false
  let memory ← freeBlocks s.memory (elementBlocks released)
  .ok { s with
    server := { s.server with exited := true }
    memory := memory
    released := some released }

/-- One iteration of `manage_connection`; it may fault. -/
def step (timeout : Int) (mn : NodeAllocator ConnectionElement) (m : Allocator SensorSocket)
    (s : LinkedConnmgr) (input : IterationInput) : Option (Except Fault LinkedConnmgr) :=
  if s.server.exited then none
  else some do
    let size ← dplSize s.list
    let listSize := size.toNat
    let s ← s.prepare mn m listSize input
    if listSize = 0 ∧ input.idleTime > deadline s.server.lastRecord timeout then s.exit
    else s.sensorLoop timeout input listSize listSize 0

/-- An iteration that does not fault. -/
def next (timeout : Int) (mn : NodeAllocator ConnectionElement) (m : Allocator SensorSocket)
    (s : LinkedConnmgr) (input : IterationInput) : Option LinkedConnmgr :=
  (s.step timeout mn m input).bind Except.toOption

/-- The connection manager over the sequence of the connections. -/
def withConnections (s : LinkedConnmgr) (connections : List SensorSocket) : Connmgr :=
  { s.server with connections := connections }

end LinkedConnmgr

end SensorGateway
