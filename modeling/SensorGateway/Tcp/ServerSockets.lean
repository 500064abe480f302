import SensorGateway.Connmgr.Connmgr
import SensorGateway.Tcp.Tcpsock

/-!
# The sockets of the connection manager

`manage_connection` with the calls of `tcpsock.c` that it makes: an iteration accepts at most one
connection, reads from the sockets that have data, closes that of the connection that it removes,
and closes the listening socket before the exit. Every connection has its socket on the heap, under
the number of the connection.
-/

namespace SensorGateway

open PtrHeap

structure ServerState where
  connmgr : Connmgr
  tcp : TcpState
  /-- `server->socket` -/
  listener : Ptr
  /-- `sensor->socket` of a connection -/
  socketOf : Nat → Ptr

/-- What the operating system answers in one iteration; at most one `shutdown` is called. -/
structure ServerInput where
  iteration : IterationInput
  accept : AcceptAnswers
  shutdown : Bool

/-- The three `tcp_receive` calls for one measurement, with what `readRecord` takes from each. -/
def receiveRecord (w : TcpState) (socket : Ptr) (input : RecordInput) :
    Except Fault (List (TcpResult × Int × List UInt8)) := do
  let id ← tcpReceiveFrom w socket input.id 2
  let value ← tcpReceiveFrom w socket input.value 8
  let ts ← tcpReceiveFrom w socket input.ts 8
  .ok [id, value, ts]

/-- The calls on the sockets of the connections in a pass of the loop, in the order of its events:
    `tcp_receive` for a measurement, and `tcp_close` with each message of a closed or silent
    client. -/
def socketCalls (shutdown : Bool) (record : Nat → RecordInput) (socketOf : Nat → Ptr) :
    List ConnmgrEvent → TcpState → Except Fault TcpState
  | [], w => .ok w
  | .received serial _ :: events, w => do
    let _ ← receiveRecord w (socketOf serial) (record serial)
    socketCalls shutdown record socketOf events w
  | .closed serial _ :: events, w | .timedOut serial _ :: events, w => do
    let (_, _, w) ← tcpClose (socketOf serial) shutdown w
    socketCalls shutdown record socketOf events w
  | _ :: events, w => socketCalls shutdown record socketOf events w

/-- What `recv` answers for the connection with this number. -/
def Connmgr.recordOf (s : Connmgr) (input : IterationInput) (serial : Nat) : RecordInput :=
  (input.sensor (s.connections.findIdx fun sensor => sensor.serial = serial)).record

namespace ServerState

/-- After `server_create`. -/
def start (sd : Nat) (fd : Nat → PollFd) (time : Int) (tcp : TcpState) (listener : Ptr) :
    ServerState where
  connmgr := serverCreate sd fd time
  tcp := tcp
  listener := listener
  socketOf := fun _ => none

/-- `tcp_wait_for_connection(server->socket, &new_sensor.socket)`, and `tcp_get_sd` of the new
    socket for the poll table. -/
def accept (sys : TcpSystem) (os : AcceptAnswers) (s : ServerState) : Except Fault ServerState := do
  let (_, socket, tcp) ← tcpWaitForConnection sys s.listener none os s.tcp
  let _ ← tcp.tcpGetSd socket (s.connmgr.fd (s.connmgr.connections.length + 1)).fd
  .ok { s with tcp := tcp, socketOf := Function.update s.socketOf s.connmgr.accepted socket }

/-- What an iteration that leads to `connmgr` does after the acceptance. -/
def finish (x : ServerInput) (connmgr : Connmgr) (s : ServerState) : Except Fault ServerState := do
  if connmgr.exited then
    let (_, listener, tcp) ← tcpClose s.listener x.shutdown s.tcp
    .ok { s with connmgr := connmgr, tcp := tcp, listener := listener }
  else
    let tcp ← socketCalls x.shutdown (s.connmgr.recordOf x.iteration) s.socketOf
      (connmgr.log.drop s.connmgr.log.length) s.tcp
    .ok { s with connmgr := connmgr, tcp := tcp }

/-- One iteration; it may fault. -/
def step (timeout : Int) (sys : TcpSystem) (s : ServerState) (x : ServerInput) :
    Option (Except Fault ServerState) := do
  let connmgr ← iterate timeout s.connmgr x.iteration
  let requested := (pollEntry x.iteration.report (s.connmgr.fd 0)).revents.pollin
  some do
    let s ← if requested then s.accept sys x.accept else .ok s
    s.finish x connmgr

/-- An iteration that does not fault. -/
def next (timeout : Int) (sys : TcpSystem) (s : ServerState) (x : ServerInput) :
    Option ServerState :=
  (s.step timeout sys x).bind Except.toOption

end ServerState

end SensorGateway
