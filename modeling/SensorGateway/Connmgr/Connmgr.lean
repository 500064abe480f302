import Mathlib.Logic.Function.Basic
import SensorGateway.Connmgr.Wire
import SensorGateway.Dplist.Sequence

/-!
# The connection manager

`server_create` and the loop body of `manage_connection`. The connection list is a `dplist`, used
through its calls on sequences; the poll table `server->fd` is unbounded here, and `accesses`
records every index that is used together with the number of entries last allocated. What the
operating system answers in one iteration (poll, accept, recv, time) is an input. A `time_t` has 64
bits.

The fields of a state from `accepted` on are history: no step reads them, except that `accepted`
numbers the connections.
-/

namespace SensorGateway

def firstSensorId : UInt16 := 0
def beginingSize : Nat := 4
def decreaseSize : Nat := 5

/-- `POLLIN` and `POLLRDHUP` -/
structure PollEvents where
  pollin : Bool
  pollrdhup : Bool
deriving DecidableEq, Repr

def PollEvents.both : PollEvents := ⟨true, true⟩

/-- `struct pollfd` -/
structure PollFd where
  fd : Int
  events : PollEvents
  revents : PollEvents
deriving DecidableEq, Repr

/-- `sensor_socket_t`. The socket is its descriptor, `none` when it is not a bound socket; `serial`
    counts the accepted connections. -/
structure SensorSocket where
  sensorId : UInt16
  socket : Option Nat
  lastRecord : Int
  serial : Nat
deriving DecidableEq, Repr

/-- What the connection manager does for a connection. -/
inductive ConnmgrEvent where
  /-- its `revents` are looked at -/
  | tested (serial : Nat) (revents : PollEvents)
  /-- bytes are taken from its socket -/
  | received (serial : Nat) (bytes : List UInt8)
  /-- a measurement is written to `sensor_data_recv` and inserted into the shared buffer -/
  | inserted (serial : Nat) (data : Measurement)
  /-- "A sensor node with %d has opened a new connection\n" -/
  | opened (serial : Nat) (id : UInt16)
  /-- `tcp_close`, "Client sensor id %d closed the TCP connection\n" -/
  | closed (serial : Nat) (id : UInt16)
  /-- `tcp_close`, "Client sensor id %d excessed the TIMEOUT limit\n" -/
  | timedOut (serial : Nat) (id : UInt16)
deriving DecidableEq, Repr

def ConnmgrEvent.serial : ConnmgrEvent → Nat
  | .tested n _ | .received n _ | .inserted n _ | .opened n _ | .closed n _ | .timedOut n _ => n

/-- `server_t`, the connection list and whether `manage_connection` has returned. -/
structure Connmgr where
  connSize : Int
  fd : Nat → PollFd
  socket : Nat
  lastRecord : Int
  connections : List SensorSocket
  exited : Bool
  accepted : Nat
  log : List ConnmgrEvent
  /-- the number of entries of `server->fd` last allocated -/
  capacity : Nat
  accesses : List (Nat × Nat)

/-- `tcp_wait_for_connection`: a connected socket, or an error that leaves `new_sensor.socket` as
    the stack has it. -/
inductive Accept where
  | ok (sd : Nat)
  | error (stale : Option Nat)
deriving DecidableEq, Repr

/-- What the loop body is given for a connection. -/
structure SensorInput where
  record : RecordInput
  /-- `time(NULL)` in the timeout test -/
  now : Int
  /-- `time(NULL)` after the connection was closed -/
  closeTime : Int

/-- What the operating system answers in one iteration. -/
structure IterationInput where
  /-- what `poll` finds on a descriptor -/
  report : Nat → PollEvents
  accept : Accept
  acceptTime : Int
  idleTime : Int
  /-- for the connection at an index of the list -/
  sensor : Nat → SensorInput

/-- The state after `server_create`, with the listening socket `sd`; `fd` and `time` are what the
    system leaves in fresh memory and on the clock. -/
def serverCreate (sd : Nat) (fd : Nat → PollFd) (time : Int) : Connmgr where
  connSize := beginingSize
  fd := Function.update fd 0 { fd 0 with fd := sd, events := .both }
  socket := sd
  lastRecord := time
  connections := []
  exited := false
  accepted := 0
  log := []
  capacity := beginingSize
  accesses := [(0, beginingSize)]

/-! ## Access to the poll table -/

/-- Records the use of entries of `server->fd`. -/
def Connmgr.touch (s : Connmgr) (indices : List Nat) : Connmgr :=
  { s with accesses := s.accesses ++ indices.map (·, s.capacity) }

/-- An entry after `poll`: a negative descriptor is ignored, and only requested events are
    reported. -/
def pollEntry (report : Nat → PollEvents) (entry : PollFd) : PollFd :=
  match entry.fd with
  | .ofNat sd =>
    { entry with revents :=
      { pollin := entry.events.pollin && (report sd).pollin
        pollrdhup := entry.events.pollrdhup && (report sd).pollrdhup } }
  | .negSucc _ => { entry with revents := ⟨false, false⟩ }

/-- `poll(server->fd, n, 0)` -/
def Connmgr.poll (s : Connmgr) (report : Nat → PollEvents) (n : Nat) : Connmgr :=
  { s.touch (List.range n) with
    fd := fun k => if k < n then pollEntry report (s.fd k) else s.fd k }

def shiftArray (fd : Nat → PollFd) (index size : Nat) : Nat → PollFd :=
  (List.range' index (size - index)).foldl (fun fd i => Function.update fd i (fd (i + 1))) fd

/-! ## The steps of an iteration -/

/-- The three-way resize: `server->conn_size` and the number of entries allocated. The sizes of
    `poll_d` and `poll_d *` are equal, and `realloc` succeeds. -/
def resizeTable (connSize : Int) (capacity listSize : Nat) : Int × Nat :=
  if listSize = connSize - 1 then (connSize * 2, (connSize * 2).toNat)
  else if listSize = connSize - decreaseSize then (listSize + 1, listSize + 1)
  else (connSize, capacity)

def Connmgr.resize (s : Connmgr) (listSize : Nat) : Connmgr :=
  let size := resizeTable s.connSize s.capacity listSize
  { s with
    connSize := size.1
    capacity := size.2 }

/-- The socket that `new_sensor` holds after `tcp_wait_for_connection`. -/
def newSocket : Accept → Option Nat
  | .ok sd => some sd
  | .error stale => stale

/-- `tcp_get_sd(socket, &fd)`: when it fails `fd` is not written. -/
def tcpGetSd (socket : Option Nat) (fd : Int) : Int :=
  match socket with
  | some sd => sd
  | none => fd

/-- The branch for a connection request. -/
def Connmgr.accept (s : Connmgr) (listSize : Nat) (result : Accept) (time : Int) : Connmgr :=
  let entry := s.fd (listSize + 1)
  let entry := { entry with fd := tcpGetSd (newSocket result) entry.fd, events := .both }
  let newSensor := ⟨firstSensorId, newSocket result, time, s.accepted⟩
  { s.touch [listSize + 1] with
    fd := Function.update s.fd (listSize + 1) entry
    connections := seqInsertAtIndex s.connections s.connections.length newSensor
    accepted := s.accepted + 1 }

/-- `last_record + TIMEOUT`, as a `time_t`: it wraps around. -/
def deadline (lastRecord timeout : Int) : Int := (lastRecord + timeout).bmod (2 ^ 64)

/-- What the loop body does for a connection. -/
structure Served where
  sensor : SensorSocket
  events : List ConnmgrEvent
  /-- the value written to `server->last_record` -/
  lastRecord : Option Int
  removed : Bool

/-- The branch for `POLLIN`. -/
def readSensor (input : RecordInput) (sensor : SensorSocket) : Served :=
  let r := readRecord sensor.socket input
  let lastRecord := if r.complete then some r.data.ts.toInt else none
  let isFirst := sensor.sensorId = firstSensorId
  { sensor :=
      { sensor with
        sensorId := if isFirst then r.data.id else sensor.sensorId
        lastRecord := lastRecord.getD sensor.lastRecord }
    events := .received sensor.serial r.consumed ::
      ((if r.complete then [.inserted sensor.serial r.data] else []) ++
        if isFirst then [.opened sensor.serial r.data.id] else [])
    lastRecord := lastRecord
    removed := false }

/-- The body of the loop up to the hang-up and timeout tests. -/
def hearSensor (input : RecordInput) (revents : PollEvents) (sensor : SensorSocket) : Served :=
  if revents.pollin then readSensor input sensor else ⟨sensor, [], none, false⟩

/-- The body of the loop over the connections. -/
def serveSensor (timeout : Int) (input : SensorInput) (revents : PollEvents)
    (sensor : SensorSocket) : Served :=
  let r := hearSensor input.record revents sensor
  let events := .tested sensor.serial revents :: r.events
  if revents.pollrdhup then
    ⟨r.sensor, events ++ [.closed sensor.serial r.sensor.sensorId], some input.closeTime, true⟩
  else if input.now > deadline r.sensor.lastRecord timeout then
    ⟨r.sensor, events ++ [.timedOut sensor.serial r.sensor.sensorId], some input.closeTime, true⟩
  else ⟨r.sensor, events, r.lastRecord, false⟩

/-- The state after the loop body of the connection at index `i`, but for its removal. -/
def Connmgr.store (s : Connmgr) (i : Nat) (r : Served) : Connmgr :=
  { s.touch [i + 1] with
    connections := s.connections.set i r.sensor
    lastRecord := r.lastRecord.getD s.lastRecord
    log := s.log ++ r.events }

/-- `dpl_remove_at_index` and `shift_array` for the connection at index `i`. -/
def Connmgr.removeSensor (s : Connmgr) (i listSize : Nat) : Connmgr :=
  { s.touch ((List.range' (i + 1) (listSize - i)).flatMap fun k => [k + 1, k]) with
    connections := seqRemoveAtIndex s.connections i
    fd := shiftArray s.fd (i + 1) (listSize + 1) }

/-- The loop over the connections, with `n` of the `listSize` passes left. -/
def sensorLoop (timeout : Int) (input : IterationInput) (listSize : Nat) :
    Nat → Nat → Connmgr → Connmgr
  | 0, _, s => s
  | n + 1, i, s =>
    match seqGetElementAtIndex s.connections i with
    | none => s
    | some sensor =>
      let r := serveSensor timeout (input.sensor i) (s.fd (i + 1)).revents sensor
      if r.removed then (s.store i r).removeSensor i listSize
      else sensorLoop timeout input listSize n (i + 1) (s.store i r)

/-- The state up to the test for an idle server. -/
def Connmgr.prepare (s : Connmgr) (input : IterationInput) : Connmgr :=
  let listSize := s.connections.length
  let s := (s.poll input.report (listSize + 1)).resize listSize
  let s := s.touch [0]
  if (s.fd 0).revents.pollin then s.accept listSize input.accept input.acceptTime else s

/-- One iteration of `manage_connection`; not enabled after it has returned. -/
def iterate (timeout : Int) (s : Connmgr) (input : IterationInput) : Option Connmgr :=
  if s.exited then none
  else
    let listSize := s.connections.length
    let s := s.prepare input
    if listSize = 0 ∧ input.idleTime > deadline s.lastRecord timeout then
      some { s with exited := true }
    else some (sensorLoop timeout input listSize listSize 0 s)

end SensorGateway
