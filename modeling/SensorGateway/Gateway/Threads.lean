import Mathlib.Logic.Function.Basic
import SensorGateway.Lib.Transition

/-!
# The three manager threads and the shared buffer

The gateway process runs three threads over one shared buffer: the connection manager inserts
measurements, the data manager and the storage manager each run the loop

    while (*thread_result_connmgr != 0 || result != SBUFFER_NO_DATA) {
        result = sbuffer_get_data(...);  if (result == SBUFFER_NO_DATA) { unlock; continue; }
        ...process buffer_data...
        sbuffer_remove(...);             // loop_barrier, then removal by the serial thread
        pthread_barrier_wait(prep_barrier);
    }

of `datamgr_parse_sensor_data`, `get_sbuffer_data` or (after three failed database connections)
`finish_datamgr`. A state holds the program counter of every thread; each lock-protected section,
each barrier arrival and each access to the shared flag is one step. The buffer is the sequence of
its measurements.

The fields from `inserted` on are history: no step reads them.
-/

namespace SensorGateway

/-! ## Return codes and constants of `sbuffer.h` and `main.h` -/

def sbufferSuccess : Int := 0
def sbufferNoData : Int := 1
def threadRunning : Int := 1
def threadEnded : Int := 0
def nrOfTries : Nat := 3

/-- The two threads that consume the shared buffer. -/
inductive Consumer where
  | datamgr
  | storagemgr
deriving DecidableEq, Repr

/-- The other consumer. -/
def Consumer.other : Consumer → Consumer
  | .datamgr => .storagemgr
  | .storagemgr => .datamgr

/-- The connection manager thread (`start_conmgr_thread` and `manage_connection`). -/
inductive ConnmgrPc where
  /-- at the test `!exit_flag && *thread_result_connmgr != 0` -/
  | loopTest
  /-- inside one iteration, where it may call `sbuffer_insert` any number of times -/
  | iteration
  /-- `connmgr_listen` has returned, the flag is not yet written -/
  | returned
  | ended
deriving DecidableEq, Repr

/-- Where a consumer thread is. -/
inductive Pc where
  /-- `start_storagemgr_thread` before the call of `init_connection` number `tries` -/
  | initConnection (tries : Nat)
  /-- all tries failed; about to write `thread_result_connmgr = THREAD_ENDED` -/
  | giveUp
  /-- at the loop test -/
  | loopTest
  /-- about to call `sbuffer_get_data` -/
  | getData
  /-- has read a measurement, about to process it -/
  | process
  /-- about to call `pthread_barrier_wait(&loop_barrier)` -/
  | loopBarrier
  | inLoopBarrier
  /-- released from `loop_barrier` as the serial thread, about to remove the head -/
  | removing
  /-- about to call `pthread_barrier_wait(&prep_barrier)` -/
  | prepBarrier
  | inPrepBarrier
  /-- out of the loop -/
  | ended
deriving DecidableEq, Repr

/-- What the gateway is run with: the outcome of every call of `init_connection`, and what the loop
    bodies of `datamgr_parse_sensor_data` and `get_sbuffer_data` do with a measurement (as a
    function on the private state `σ c` of the thread). -/
structure Setup (α : Type) (σ : Consumer → Type) where
  initConnection : Nat → Bool
  process : (c : Consumer) → α → σ c → σ c

structure Gateway (α : Type) (σ : Consumer → Type) where
  threadResultConnmgr : Int
  connmgr : ConnmgrPc
  /-- the data of the nodes from `head` to `tail` -/
  buffer : List α
  /-- a thread that returned from `sbuffer_remove` without releasing the write lock -/
  wrlocked : Option Consumer
  /-- the threads that wait in the current round of a barrier -/
  loopBarrier : List Consumer
  prepBarrier : List Consumer
  /-- `conn != NULL` in `start_storagemgr_thread` -/
  connected : Bool
  pc : Consumer → Pc
  result : Consumer → Int
  /-- `*buffer_data`, uninitialised before the first read -/
  data : Consumer → Option α
  acc : (c : Consumer) → σ c
  inserted : List α
  removed : List α
  processed : Consumer → List α

variable {α : Type} {σ : Consumer → Type}

/-- The state in which `main` has created the three threads. -/
def Gateway.init (acc : (c : Consumer) → σ c) : Gateway α σ where
  threadResultConnmgr := threadRunning
  connmgr := .loopTest
  buffer := []
  wrlocked := none
  loopBarrier := []
  prepBarrier := []
  connected := false
  pc := fun
    | .datamgr => .loopTest
    | .storagemgr => .initConnection 0
  result := fun _ => 0
  data := fun _ => none
  acc := acc
  inserted := []
  removed := []
  processed := fun _ => []

/-- The labels of the steps: who moves, and the choices the environment makes. -/
inductive Action (α : Type) where
  | connmgrTest
  | sbufferInsert (m : α)
  | connmgrNext
  | connmgrReturn
  | connmgrEnd
  | initConnection
  | giveUp
  | loopTest (c : Consumer)
  | sbufferGetData (c : Consumer)
  | process (c : Consumer)
  /-- `c` arrives at `loop_barrier`; if that completes the round, `serial` is elected -/
  | loopBarrier (c serial : Consumer)
  | remove (c : Consumer)
  | prepBarrier (c : Consumer)
deriving DecidableEq

/-! ## The barriers

`pthread_barrier_init(.., 2)`: the second arrival of a round releases both. -/

/-- The threads that wait after `c` arrived, and the threads that the arrival released. -/
def pthreadBarrierWait (waiting : List Consumer) (c : Consumer) : List Consumer × List Consumer :=
  if waiting.length + 1 = 2 then ([], c :: waiting) else (c :: waiting, [])

/-! ## The lock-protected sections of `sbuffer.c` -/

/-- `sbuffer_get_data` with the unlock its callers add on `SBUFFER_NO_DATA`: the result and
    `*data`. -/
def sbufferGetData (buffer : List α) (data : Option α) : Int × Option α :=
  match buffer with
  | [] => (sbufferNoData, data)
  | m :: _ => (sbufferSuccess, some m)

/-- `sbuffer_insert`. -/
def sbufferInsert (buffer : List α) (m : α) : List α := buffer ++ [m]

namespace Gateway

/-! ## The steps of the connection manager -/

def connmgrTest (s : Gateway α σ) : Option (Gateway α σ) :=
  if s.connmgr = .loopTest then
    if s.threadResultConnmgr ≠ 0 then some { s with connmgr := .iteration }
    else some { s with connmgr := .returned }
  else none

def insert (s : Gateway α σ) (m : α) : Option (Gateway α σ) :=
  if s.connmgr = .iteration ∧ s.wrlocked = none then
    some { s with buffer := sbufferInsert s.buffer m, inserted := s.inserted ++ [m] }
  else none

/-- The end of an iteration of `manage_connection`. -/
def connmgrNext (s : Gateway α σ) : Option (Gateway α σ) :=
  if s.connmgr = .iteration then some { s with connmgr := .loopTest } else none

/-- The exit for want of an active client. -/
def connmgrReturn (s : Gateway α σ) : Option (Gateway α σ) :=
  if s.connmgr = .iteration then some { s with connmgr := .returned } else none

/-- `thread_result_connmgr = THREAD_ENDED` in `start_conmgr_thread`. -/
def connmgrEnd (s : Gateway α σ) : Option (Gateway α σ) :=
  if s.connmgr = .returned then
    some { s with connmgr := .ended, threadResultConnmgr := threadEnded }
  else none

/-! ## The steps of `start_storagemgr_thread` before its loop -/

def initConnection (st : Setup α σ) (s : Gateway α σ) : Option (Gateway α σ) :=
  match s.pc .storagemgr with
  | .initConnection tries =>
    if st.initConnection tries then
      some { s with connected := true, pc := Function.update s.pc .storagemgr .loopTest }
    else if tries + 1 < nrOfTries then
      some { s with pc := Function.update s.pc .storagemgr (.initConnection (tries + 1)) }
    else some { s with pc := Function.update s.pc .storagemgr .giveUp }
  | _ => none

/-- The flag is written and `finish_datamgr` is entered. -/
def giveUp (s : Gateway α σ) : Option (Gateway α σ) :=
  if s.pc .storagemgr = .giveUp then
    some { s with
      threadResultConnmgr := threadEnded
      pc := Function.update s.pc .storagemgr .loopTest }
  else none

/-! ## The steps of a consumer loop -/

/-- `*thread_result_connmgr != 0 || result != SBUFFER_NO_DATA`. -/
def loopTest (s : Gateway α σ) (c : Consumer) : Option (Gateway α σ) :=
  if s.pc c = .loopTest then
    if s.threadResultConnmgr ≠ 0 ∨ s.result c ≠ sbufferNoData then
      some { s with pc := Function.update s.pc c .getData }
    else some { s with pc := Function.update s.pc c .ended }
  else none

def getData (s : Gateway α σ) (c : Consumer) : Option (Gateway α σ) :=
  if s.pc c = .getData ∧ s.wrlocked = none then
    let r := sbufferGetData s.buffer (s.data c)
    some { s with
      result := Function.update s.result c r.1
      data := Function.update s.data c r.2
      pc := Function.update s.pc c (if r.1 = sbufferNoData then .loopTest else .process) }
  else none

/-- The loop body proper; `finish_datamgr` has none. -/
def process (st : Setup α σ) (s : Gateway α σ) (c : Consumer) : Option (Gateway α σ) :=
  match s.pc c, s.data c with
  | .process, some m =>
    some { s with
      acc := if c = .storagemgr ∧ ¬ s.connected then s.acc
        else Function.update s.acc c (st.process c m (s.acc c))
      processed := Function.update s.processed c (s.processed c ++ [m])
      pc := Function.update s.pc c .loopBarrier }
  | _, _ => none

/-- `pthread_barrier_wait(&loop_barrier)` in `sbuffer_remove`. -/
def arriveLoopBarrier (s : Gateway α σ) (c serial : Consumer) : Option (Gateway α σ) :=
  let b := pthreadBarrierWait s.loopBarrier c
  if s.pc c = .loopBarrier ∧ (b.2 ≠ [] → serial ∈ b.2) then
    some { s with
      loopBarrier := b.1
      pc := fun d =>
        if d ∈ b.2 then (if d = serial then .removing else .prepBarrier)
        else if d = c then .inLoopBarrier else s.pc d }
  else none

/-- The removal by the serial thread. On an empty buffer `sbuffer_remove` returns with the write
    lock held. -/
def remove (s : Gateway α σ) (c : Consumer) : Option (Gateway α σ) :=
  if s.pc c = .removing ∧ s.wrlocked = none then
    match s.buffer with
    | [] => some { s with wrlocked := some c, pc := Function.update s.pc c .prepBarrier }
    | m :: rest =>
      some { s with
        buffer := rest
        data := Function.update s.data c (some m)
        removed := s.removed ++ [m]
        pc := Function.update s.pc c .prepBarrier }
  else none

/-- `pthread_barrier_wait(&prep_barrier)`. -/
def arrivePrepBarrier (s : Gateway α σ) (c : Consumer) : Option (Gateway α σ) :=
  let b := pthreadBarrierWait s.prepBarrier c
  if s.pc c = .prepBarrier then
    some { s with
      prepBarrier := b.1
      pc := fun d =>
        if d ∈ b.2 then .loopTest else if d = c then .inPrepBarrier else s.pc d }
  else none

/-- One atomic step of one thread. -/
def step (st : Setup α σ) (s : Gateway α σ) : Action α → Option (Gateway α σ)
  | .connmgrTest => s.connmgrTest
  | .sbufferInsert m => s.insert m
  | .connmgrNext => s.connmgrNext
  | .connmgrReturn => s.connmgrReturn
  | .connmgrEnd => s.connmgrEnd
  | .initConnection => s.initConnection st
  | .giveUp => s.giveUp
  | .loopTest c => s.loopTest c
  | .sbufferGetData c => s.getData c
  | .process c => s.process st c
  | .loopBarrier c serial => s.arriveLoopBarrier c serial
  | .remove c => s.remove c
  | .prepBarrier c => s.arrivePrepBarrier c

end Gateway

end SensorGateway
