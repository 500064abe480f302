import Mathlib.Data.Finset.Insert
import SensorGateway.Connmgr.Wire
import SensorGateway.Lib.PtrHeap

/-!
# The sockets of `tcpsock.c`

A `tcpsock_t` lies on the heap, with the block of its IP address, and holds a descriptor of the
operating system. The state has the two kinds of blocks and the open descriptors; what the operating
system answers to a call is an input. The functions set their error codes and release what they have
allocated as the code does, descriptors included.
-/

namespace SensorGateway

open PtrHeap

def minPort : Int := 1024
def maxPort : Int := 65536
def magicCookie : Int := 0xA2E1CF37D35
def charIpAddrLength : Nat := 16

/-- The error codes of `tcpsock.h`. -/
inductive TcpCode where
  | noError
  | socketError
  | addressError
  | sockopError
  | connectionClosed
  | memoryError
deriving DecidableEq, Repr

/-- `tcpsock_t` -/
structure Tcpsock where
  cookie : Int
  sd : Int
  ipAddr : Ptr
  port : Int
deriving DecidableEq, Repr

structure TcpState where
  sockets : Heap Tcpsock
  /-- the blocks that `ip_addr` points to -/
  texts : Heap (List Char)
  /-- the open descriptors -/
  descriptors : Finset Nat

/-- The addresses that `malloc` gives, and the descriptors that `socket` and `accept` give. -/
structure TcpSystem where
  sockets : Allocator Tcpsock
  texts : Allocator (List Char)
  descriptor : Finset Nat → Nat
  descriptor_unused : ∀ used, descriptor used ∉ used

namespace TcpState

def empty : TcpState where
  sockets := Heap.empty
  texts := Heap.empty
  descriptors := ∅

/-- `socket` or `accept`: a new descriptor, or -1. -/
def newDescriptor (sys : TcpSystem) (ok : Bool) (w : TcpState) : Int × TcpState :=
  if ok then
    let sd := sys.descriptor w.descriptors
    (sd, { w with descriptors := insert sd w.descriptors })
  else (-1, w)

/-- `close` -/
def closeDescriptor (sd : Int) (w : TcpState) : TcpState :=
  { w with descriptors := w.descriptors.erase sd.toNat }

/-- An assignment to fields of a socket. -/
def assign (s : Ptr) (f : Tcpsock → Tcpsock) (w : TcpState) : Except Fault TcpState := do
  let sockets ← w.sockets.modify s f
  .ok { w with sockets := sockets }

/-- `free(s)` -/
def freeSocket (s : Ptr) (w : TcpState) : Except Fault TcpState := do
  let sockets ← w.sockets.free s
  .ok { w with sockets := sockets }

/-- `malloc` for the IP address, and the `strncpy` into it. -/
def newText (sys : TcpSystem) (ok : Bool) (text : List Char) (w : TcpState) : Ptr × TcpState :=
  if ok then
    let a := sys.texts.malloc w.texts
    (some a, { w with texts := w.texts.write a (text.take charIpAddrLength) })
  else (none, w)

end TcpState

open TcpState

/-- `tcp_sock_create` -/
def tcpSockCreate (sys : TcpSystem) (memory : Bool) (w : TcpState) : Ptr × TcpState :=
  if memory then
    let s := sys.sockets.malloc w.sockets
    (some s, { w with sockets := w.sockets.write s ⟨0, -1, none, -1⟩ })
  else (none, w)

/-! ## Opening -/

/-- The error code, the output pointer and the state. -/
abbrev TcpReturn := TcpCode × Ptr × TcpState

/-- `free(s); return code;` -/
def tcpGiveUp (s sock : Ptr) (code : TcpCode) (w : TcpState) : Except Fault TcpReturn := do
  let w ← w.freeSocket s
  .ok (code, sock, w)

/-- From the call of `tcp_sock_create` to the test of the descriptor that `socket` or `accept`
    gives, in the three functions that open a socket; `rest` is what follows. -/
def tcpNewSocket (sys : TcpSystem) (sock : Ptr) (memory ok : Bool)
    (rest : Ptr → TcpState → Except Fault TcpReturn) (w : TcpState) : Except Fault TcpReturn := do
  let (s, w) := tcpSockCreate sys memory w
  if s = none then .ok (.memoryError, sock, w)
  else
    let (sd, w) := newDescriptor sys ok w
    let w ← w.assign s fun t => { t with sd := sd }
    if sd < 0 then tcpGiveUp s sock .sockopError w else rest s w

/-- From the allocation of the IP address to the end, in `tcp_active_open` and
    `tcp_wait_for_connection`. -/
def tcpName (sys : TcpSystem) (sock : Ptr) (textMemory : Bool) (ip : List Char) (port : UInt16)
    (s : Ptr) (w : TcpState) : Except Fault TcpReturn := do
  let (ipAddr, w) := newText sys textMemory ip w
  let w ← w.assign s fun t => { t with ipAddr := ipAddr }
  if ipAddr = none then tcpGiveUp s sock .memoryError w
  else
    let w ← w.assign s fun t => { t with port := port.toNat, cookie := magicCookie }
    .ok (.noError, s, w)

/-- Whether the calls in `tcp_passive_open` succeed. -/
structure PassiveAnswers where
  memory : Bool
  socket : Bool
  bind : Bool
  listen : Bool

def tcpPassiveOpen (sys : TcpSystem) (sock : Ptr) (port : Int) (os : PassiveAnswers)
    (w : TcpState) : Except Fault TcpReturn :=
  if port < minPort ∨ port > maxPort then .ok (.addressError, sock, w)
  else
    tcpNewSocket sys sock os.memory os.socket (fun s w =>
      if ¬ os.bind then tcpGiveUp s sock .sockopError w
      else if ¬ os.listen then tcpGiveUp s sock .sockopError w
      else do
        let w ← w.assign s fun t => { t with ipAddr := none, port := port, cookie := magicCookie }
        .ok (.noError, s, w)) w

/-- Whether the calls in `tcp_active_open` succeed, and the own address and port that `getsockname`
    gives. -/
structure ActiveAnswers where
  memory : Bool
  socket : Bool
  inetAton : Bool
  connect : Bool
  getsockname : Bool
  textMemory : Bool
  ip : List Char
  port : UInt16

def tcpActiveOpen (sys : TcpSystem) (sock : Ptr) (remotePort : Int) (remoteIp : Option (List Char))
    (os : ActiveAnswers) (w : TcpState) : Except Fault TcpReturn :=
  if remotePort < minPort ∨ remotePort > maxPort then .ok (.addressError, sock, w)
  else if remoteIp = none then .ok (.addressError, sock, w)
  else
    tcpNewSocket sys sock os.memory os.socket (fun client w =>
      if ¬ os.inetAton then tcpGiveUp client sock .addressError w
      else if ¬ os.connect then tcpGiveUp client sock .sockopError w
      else if ¬ os.getsockname then tcpGiveUp client sock .sockopError w
      else tcpName sys sock os.textMemory os.ip os.port client w) w

/-- Whether the calls in `tcp_wait_for_connection` succeed, and the address and port of the peer
    that `accept` gives. -/
structure AcceptAnswers where
  memory : Bool
  accept : Bool
  textMemory : Bool
  ip : List Char
  port : UInt16

def tcpWaitForConnection (sys : TcpSystem) (socket newSocket : Ptr) (os : AcceptAnswers)
    (w : TcpState) : Except Fault TcpReturn := do
  if socket = none then .ok (.socketError, newSocket, w)
  else
    let listener ← w.sockets.load socket
    if listener.cookie ≠ magicCookie then .ok (.socketError, newSocket, w)
    else
      tcpNewSocket sys newSocket os.memory os.accept
        (tcpName sys newSocket os.textMemory os.ip os.port) w

/-! ## Closing -/

/-- What `tcp_close` does to the address and the descriptor of a bound socket. -/
def tcpRelease (t : Tcpsock) (shutdown : Bool) (w : TcpState) : Except Fault TcpState := do
  let texts ← w.texts.free t.ipAddr
  let w := { w with texts := texts }
  if t.sd ≥ 0 ∧ shutdown then .ok (w.closeDescriptor t.sd) else .ok w

/-- `tcp_close`, given whether `shutdown` succeeds; the result of `close` is ignored. -/
def tcpClose (socket : Ptr) (shutdown : Bool) (w : TcpState) : Except Fault TcpReturn := do
  if socket = none then .ok (.socketError, socket, w)
  else
    let t ← w.sockets.load socket
    let w ← if t.cookie = magicCookie then tcpRelease t shutdown w else .ok w
    let w ← w.assign socket fun _ => ⟨0, -1, none, -1⟩
    let w ← w.freeSocket socket
    .ok (.noError, none, w)

/-! ## Sending and receiving -/

/-- The test at the head of the functions below: the descriptor of a bound socket. -/
def tcpBound (w : TcpState) (socket : Ptr) : Except Fault (Option Tcpsock) := do
  if socket = none then .ok none
  else
    let t ← w.sockets.load socket
    if t.cookie ≠ magicCookie then .ok none else .ok (some t)

/-- `tcp_receive` on a pointer. -/
def tcpReceiveFrom (w : TcpState) (socket : Ptr) (recv : Recv) (bufSize : Int) :
    Except Fault (TcpResult × Int × List UInt8) := do
  match ← tcpBound w socket with
  | none => .ok (.socketError, bufSize, [])
  | some t => .ok (tcpReceive (some t.sd.toNat) recv bufSize)

/-- What `sendto` does: it takes a number of bytes, or fails with -1. -/
inductive Send where
  | sent (n : Nat)
  | failed (noPeer : Bool)
deriving DecidableEq, Repr

/-- `tcp_send`: the result and the new `*buf_size`. -/
def tcpSend (w : TcpState) (socket : Ptr) (send : Send) (bufSize : Int) :
    Except Fault (TcpCode × Int) := do
  match ← tcpBound w socket with
  | none => .ok (.socketError, bufSize)
  | some _ =>
    match send with
    | .sent n => if n = 0 then .ok (.connectionClosed, 0) else .ok (.noError, n)
    | .failed noPeer => if noPeer then .ok (.connectionClosed, -1) else .ok (.sockopError, -1)

/-! ## Queries -/

/-- A query, with the field it reads and the value that the output has before. -/
def tcpGet {β : Type} (field : Tcpsock → β) (w : TcpState) (socket : Ptr) (before : β) :
    Except Fault (TcpCode × β) := do
  match ← tcpBound w socket with
  | none => .ok (.socketError, before)
  | some t => .ok (.noError, field t)

/-- `tcp_get_ip_addr` -/
def TcpState.tcpGetIpAddr (w : TcpState) := tcpGet Tcpsock.ipAddr w

/-- `tcp_get_port` -/
def TcpState.tcpGetPort (w : TcpState) := tcpGet Tcpsock.port w

/-- `tcp_get_sd` -/
def TcpState.tcpGetSd (w : TcpState) := tcpGet Tcpsock.sd w

/-! ## Runs -/

/-- A call that opens or closes a socket, with the answers to it. -/
inductive TcpCall where
  | passiveOpen (port : Int) (os : PassiveAnswers)
  | activeOpen (remotePort : Int) (remoteIp : Option (List Char)) (os : ActiveAnswers)
  | waitForConnection (socket : Ptr) (os : AcceptAnswers)
  | close (socket : Ptr) (shutdown : Bool)

/-- The call, with the output pointer NULL before. -/
def TcpCall.run (sys : TcpSystem) (w : TcpState) : TcpCall → Except Fault TcpReturn
  | .passiveOpen port os => tcpPassiveOpen sys none port os w
  | .activeOpen port ip os => tcpActiveOpen sys none port ip os w
  | .waitForConnection socket os => tcpWaitForConnection sys socket none os w
  | .close socket shutdown => tcpClose socket shutdown w

/-- A call that does not fault. -/
def tcpStep (sys : TcpSystem) (w : TcpState) (call : TcpCall) : Option TcpState :=
  (call.run sys w).toOption.map fun r => r.2.2

end SensorGateway
