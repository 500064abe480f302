import SensorGateway.Lib.Scan
import SensorGateway.Tcp.Tcpsock

/-!
# The sensor node

`main` of `sensor_node.c`: it opens its connection and then measures and sends, `LOOPS` times or for
ever. The measured values and what the operating system answers are inputs; the log file is left
out.
-/

namespace SensorGateway

open PtrHeap LittleEndian Scan

inductive ExitCode where
  | success
  | failure
deriving DecidableEq, Repr

structure SensorNode where
  id : UInt16
  tcp : TcpState
  client : Ptr
  i : Nat
  /-- the measurements it has begun to send -/
  measured : List Measurement
  /-- the bytes that `sendto` has taken -/
  sent : List UInt8
  exit : Option ExitCode

/-- One pass of the loop: the measurement, what `sendto` does to its three fields, and whether
    `shutdown` succeeds should this be the last pass. -/
structure NodeInput where
  value : UInt64
  ts : Int64
  sendId : Send
  sendValue : Send
  sendTs : Send
  shutdown : Bool

/-- What the pass measures. -/
def NodeInput.measurement (input : NodeInput) (id : UInt16) :
    Measurement := ⟨id, input.value, input.ts⟩

/-- The number of bytes that `sendto` takes. -/
def Send.taken : Send → Nat
  | .sent n => n
  | .failed _ => 0

namespace SensorNode

/-- `main` up to its loop. `server_ip` has room for 15 characters. -/
def start (sys : TcpSystem) (loops : Nat) (argv : List (List Char)) (os : ActiveAnswers) :
    Except Fault SensorNode :=
  match argv with
  | [_, id, _, ip, port] => do
    let (code, client, tcp) ← tcpActiveOpen sys none (atoi port) (some (ip.take 15)) os .empty
    .ok {
      id := UInt16.ofInt (atoi id)
      tcp := tcp
      client := client
      i := if loops > 1 then loops else 1
      measured := []
      sent := []
      exit := if code ≠ .noError then some .failure else none }
  | _ =>
    .ok {
      id := 0
      tcp := .empty
      client := none
      i := if loops > 1 then loops else 1
      measured := []
      sent := []
      exit := some .success }

/-- The fields of a measurement in the order in which they are sent. -/
def fields (data : Measurement) (input : NodeInput) : List (List UInt8 × Send) :=
  [(leBytes 2 data.id.toNat, input.sendId), (leBytes 8 data.value.toNat, input.sendValue),
    (leBytes 8 data.ts.toUInt64.toNat, input.sendTs)]

/-- The calls of `tcp_send` up to the first that fails: whether none has, and the bytes that were
    taken. A call that takes a part of its field does not fail. -/
def sendFields (tcp : TcpState) (client : Ptr) :
    List (List UInt8 × Send) → Except Fault (Bool × List UInt8)
  | [] => .ok (true, [])
  | (field, send) :: rest => do
    let (code, _) ← tcpSend tcp client send field.length
    if code ≠ .noError then .ok (false, [])
    else
      let (ok, bytes) ← sendFields tcp client rest
      .ok (ok, field.take send.taken ++ bytes)

/-- `tcp_close` and the exit. -/
def close (s : SensorNode) (shutdown : Bool) : Except Fault SensorNode := do
  let (code, client, tcp) ← tcpClose s.client shutdown s.tcp
  .ok { s with
    client := client
    tcp := tcp
    exit := some (if code ≠ .noError then .failure else .success) }

/-- The loop body, and what follows the loop after its last pass. -/
def pass (loops : Nat) (s : SensorNode) (input : NodeInput) : Except Fault SensorNode := do
  let data := input.measurement s.id
  let (ok, bytes) ← sendFields s.tcp s.client (fields data input)
  let s := { s with measured := s.measured ++ [data], sent := s.sent ++ bytes }
  if ok then
    let s := { s with i := if loops > 1 then s.i - 1 else s.i }
    if s.i = 0 then s.close input.shutdown else .ok s
  else .ok { s with exit := some .failure }

def step (loops : Nat) (s : SensorNode) (input : NodeInput) : Option (Except Fault SensorNode) :=
  if s.exit = none then some (s.pass loops input) else none

/-- A pass that does not fault. -/
def next (loops : Nat) (s : SensorNode) (input : NodeInput) : Option SensorNode :=
  (s.step loops input).bind Except.toOption

end SensorNode

end SensorGateway
