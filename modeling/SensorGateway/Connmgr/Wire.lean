import SensorGateway.Lib.LittleEndian

/-!
# Measurements on the wire

What a sensor node writes to its connection, `tcp_receive`, and the three calls of it with which
`manage_connection` reads one measurement. A `double` is its 64 bits; both ends are little-endian.
-/

namespace SensorGateway

open LittleEndian

/-- `sensor_data_t` -/
structure Measurement where
  id : UInt16
  value : UInt64
  ts : Int64
deriving DecidableEq, Repr

/-- The three `tcp_send` calls of `sensor_node.c`. -/
def Measurement.bytes (m : Measurement) : List UInt8 :=
  leBytes 2 m.id.toNat ++ leBytes 8 m.value.toNat ++ leBytes 8 m.ts.toUInt64.toNat

/-- What the sensor node has written after the measurements `ms`. -/
def wireBytes (ms : List Measurement) : List UInt8 := ms.flatMap Measurement.bytes

/-- The error codes of `tcpsock.h` that `tcp_receive` returns. -/
inductive TcpResult where
  | noError
  | socketError
  | sockopError
  | connectionClosed
deriving DecidableEq, Repr

/-- What `recv` does: it hands out bytes (none after the peer closed) or fails with -1. -/
inductive Recv where
  | received (bytes : List UInt8)
  | failed (enotconn : Bool)
deriving DecidableEq, Repr

/-- The result, the new `*buf_size` and the bytes put into the buffer. A socket that is NULL or not
    bound is `none`. -/
def tcpReceive (socket : Option Nat) (recv : Recv) (bufSize : Int) : TcpResult × Int × List UInt8 :=
  match socket, recv with
  | none, _ => (.socketError, bufSize, [])
  | some _, .received bytes =>
    if bytes.length = 0 then (.connectionClosed, 0, []) else (.noError, bytes.length, bytes)
  | some _, .failed enotconn => (if enotconn then .connectionClosed else .sockopError, -1, [])

/-- A field of `n` bytes on the stack after `got` was received into it. -/
def fillField (stale : Nat → UInt8) (n : Nat) (got : List UInt8) : List UInt8 :=
  (List.range n).map fun k => got.getD k (stale k)

/-- The three `recv` calls for one measurement, and the bytes that the variable `data` holds
    before. -/
structure RecordInput where
  id : Recv
  value : Recv
  ts : Recv
  staleId : Nat → UInt8
  staleValue : Nat → UInt8
  staleTs : Nat → UInt8

/-- `data` after the calls, whether `(result == TCP_NO_ERROR) && bytes` holds, and the bytes taken
    from the connection. -/
structure RecordRead where
  data : Measurement
  complete : Bool
  consumed : List UInt8

def readRecord (socket : Option Nat) (input : RecordInput) : RecordRead :=
  let (_, _, id) := tcpReceive socket input.id 2
  let (_, _, value) := tcpReceive socket input.value 8
  let (result, bytes, ts) := tcpReceive socket input.ts 8
  { data :=
      { id := UInt16.ofNat (leNat (fillField input.staleId 2 id))
        value := UInt64.ofNat (leNat (fillField input.staleValue 8 value))
        ts := Int64.ofNat (leNat (fillField input.staleTs 8 ts)) }
    complete := result = .noError ∧ bytes ≠ 0
    consumed := id ++ value ++ ts }

end SensorGateway
