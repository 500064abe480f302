import Mathlib.Logic.Function.Basic
import SensorGateway.Lib.Binary64
import SensorGateway.Lib.Lines
import SensorGateway.Lib.Transition

/-!
# The log process

The messages that the three manager threads give to `write_to_FIFO`, and `run_child`, which reads
them from the FIFO line by line and writes them to `gateway.log`. Under the mutex, and with the
`fflush`, a call of `write_to_FIFO` appends the whole message; `fgets` waits until its line is
complete or the writers are done.
-/

namespace SensorGateway

open Decimal Binary64 Lines

def recBufSize : Nat := 400

/-- The bytes of a text in the encoding of the source files. -/
def utf8 (cs : List Char) : List UInt8 := cs.flatMap String.utf8EncodeChar

def newline : UInt8 := 10
def space : UInt8 := 32

/-! ## The messages -/

/-- What the `asprintf` calls of the managers format. -/
inductive LogMessage where
  | opened (id : UInt16)
  | closed (id : UInt16)
  | timedOut (id : UInt16)
  | tooCold (id : UInt16) (runningAvg : Double)
  | tooWarm (roomId id : UInt16) (runningAvg : Double) (ts : Int64)
  | invalidId (id : UInt16)
  | connectFailed
  | connected
  | tableCreated
  | connectionLost
deriving DecidableEq, Repr

/-- A `uint16_t` printed with `%d` or `%hu`. -/
def idText (id : UInt16) : List Char := natText id.toNat

def LogMessage.text : LogMessage → List Char
  | .opened id => "A sensor node with ".toList ++ idText id ++
    " has opened a new connection\n".toList
  | .closed id => "Client sensor id ".toList ++ idText id ++ " closed the TCP connection\n".toList
  | .timedOut id => "Client sensor id ".toList ++ idText id ++
    " excessed the TIMEOUT limit\n".toList
  | .tooCold id runningAvg =>
    "The sensor node with ".toList ++ idText id ++
      " reports it’s too cold (running avg temperature = ".toList ++ runningAvg.text 6 ++
        ") \n".toList
  | .tooWarm roomId id runningAvg ts =>
    "It's too warm in room ".toList ++ idText roomId ++ " for sensor ".toList ++ idText id ++
      " with a running average of ".toList ++ runningAvg.text 6 ++ " on ".toList ++
      intText ts.toInt ++ " \n".toList
  | .invalidId id => "Received sensor data with invalid sensor node ID ".toList ++ idText id ++
    " \n".toList
  | .connectFailed => "Unable to connect DB\n".toList
  | .connected => "Connection to SQL server established\n".toList
  | .tableCreated => "New table SensorData created\n".toList
  | .connectionLost => "Connection to SQL server lost\n".toList

def LogMessage.bytes (m : LogMessage) : List UInt8 := utf8 m.text

/-! ## The log file -/

/-- `++sequence_number` of an `int` -/
def nextSequence (sequenceNumber : Int) : Int := (sequenceNumber + 1).bmod (2 ^ 32)

/-- What `%s` prints of a buffer. -/
def cString (buffer : List UInt8) : List UInt8 := buffer.takeWhile (· ≠ 0)

/-- `fprintf(flog,"%d %ld %s",sequence_number, time(NULL), recv_buf)` -/
def logEntry (sequenceNumber time : Int) (recvBuf : List UInt8) : List UInt8 :=
  utf8 (intText sequenceNumber) ++ space :: (utf8 (intText time) ++ space :: cString recvBuf)

/-! ## The processes -/

/-- The threads that write log messages. -/
inductive Writer where
  | connmgr
  | datamgr
  | storagemgr
deriving DecidableEq, Repr

/-- The messages that each thread has still to write, the FIFO and the log process. -/
structure LogSystem where
  pending : Writer → List LogMessage
  /-- the messages written so far -/
  written : List LogMessage
  fifo : List UInt8
  sequenceNumber : Int
  log : List UInt8

/-- One call of `write_to_FIFO`, or one pass of the loop of `run_child` at the given time. -/
inductive LogAction where
  | write (writer : Writer)
  | read (time : Int)
deriving DecidableEq, Repr

def LogSystem.start (pending : Writer → List LogMessage) : LogSystem where
  pending := pending
  written := []
  fifo := []
  sequenceNumber := 0
  log := []

/-- The write end of the FIFO is closed when no thread has a message left. -/
def LogSystem.writersDone (s : LogSystem) : Bool :=
  (s.pending .connmgr).isEmpty && (s.pending .datamgr).isEmpty && (s.pending .storagemgr).isEmpty

/-- `fgets(recv_buf, REC_BUF_SIZE, fpread)` returns a line: it is not empty, and it ends with a
    newline, fills the buffer or is the last one. -/
def LogSystem.canRead (s : LogSystem) : Bool :=
  let line := (takeLine newline (recBufSize - 1) s.fifo).1
  !line.isEmpty &&
    (line.getLast? = some newline || line.length = recBufSize - 1 || s.writersDone)

def LogSystem.step (s : LogSystem) : LogAction → Option LogSystem
  | .write writer =>
    match s.pending writer with
    | [] => none
    | message :: rest =>
      some { s with
        pending := Function.update s.pending writer rest
        written := s.written ++ [message]
        fifo := s.fifo ++ message.bytes }
  | .read time =>
    if s.canRead then
      let (line, rest) := takeLine newline (recBufSize - 1) s.fifo
      some { s with
        fifo := rest
        sequenceNumber := nextSequence s.sequenceNumber
        log := s.log ++ logEntry (nextSequence s.sequenceNumber) time line }
    else none

/-- All messages are written and read: the next `fgets` returns NULL. -/
def LogSystem.Done (s : LogSystem) : Prop := s.writersDone = true ∧ s.fifo = []

/-! ## What the log should be -/

/-- One line for each message: its number from `k + 1` on, a time and the message. -/
def logLines : Nat → List Int → List LogMessage → List UInt8
  | k, time :: times, message :: messages =>
    utf8 (intText (k + 1)) ++ space :: (utf8 (intText time) ++ space :: message.bytes) ++
      logLines (k + 1) times messages
  | _, _, _ => []

/-- The log has one line for each message, in the order of the writes. -/
def OneLineEach (s : LogSystem) : Prop :=
  ∃ times : List Int, times.length = s.written.length ∧ s.log = logLines 0 times s.written

/-- The messages that the threads have still to write. -/
def allMessages (pending : Writer → List LogMessage) : List LogMessage :=
  pending .connmgr ++ pending .datamgr ++ pending .storagemgr

/-- The message fits the buffer of the log process: only the one for a room that is too warm can
    fail to. -/
def LogMessage.Fits : LogMessage → Prop
  | .tooWarm roomId id runningAvg ts =>
    (idText roomId).length + (idText id).length + (runningAvg.text 6).length +
      (intText ts.toInt).length ≤ 332
  | _ => True

instance : DecidablePred LogMessage.Fits
  | .opened _ | .closed _ | .timedOut _ | .tooCold _ _ | .invalidId _ | .connectFailed | .connected
  | .tableCreated | .connectionLost => isTrue trivial
  | .tooWarm _ _ _ _ => inferInstanceAs (Decidable (_ ≤ _))

end SensorGateway
