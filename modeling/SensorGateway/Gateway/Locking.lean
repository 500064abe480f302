import SensorGateway.Gateway.Threads
import SensorGateway.Lib.RwLock

/-!
# The gateway with the lock of the buffer

The steps of `Gateway` with every section that `buffer->lock` protects taken apart: the acquisition,
the section itself, the release. Where a thread stands is its program counter in `Gateway` and its
place relative to the section:

* `sbuffer_get_data` takes the read lock; the section tests the head and copies its data. With
  `SBUFFER_NO_DATA` it returns without the release, which is left to the caller, else it releases;
* the serial thread takes the write lock in `sbuffer_remove`, removes the head and releases. When it
  finds no head it returns without the release;
* `sbuffer_insert` takes the write lock, appends and releases.
-/

namespace SensorGateway

open Locks

inductive Thread where
  | connmgr
  | consumer (c : Consumer)
deriving DecidableEq, Repr

/-- Where a thread stands relative to the sections under the lock. -/
inductive Critical where
  | outside
  /-- the lock was acquired, the section is about to run -/
  | locked (m : Mode)
  /-- the section has run, `pthread_rwlock_unlock` is the next call -/
  | unlocking (m : Mode)
deriving DecidableEq, Repr

/-- The states of a run: the threads hold no private results here. -/
structure Locking (α : Type) where
  gateway : Gateway α fun _ => Unit
  critical : Thread → Critical
  lock : RwLock Thread

inductive LockAction (α : Type) where
  | acquire (t : Thread)
  | insert (m : α)
  | getData (c : Consumer)
  | remove (c : Consumer)
  | release (t : Thread)
  /-- a step that does not touch the buffer -/
  | other (a : Action α)

/-- Whose step it is, for a step that does not touch the buffer. -/
def Action.thread {α : Type} : Action α → Option Thread
  | .connmgrTest | .connmgrNext | .connmgrReturn | .connmgrEnd => some .connmgr
  | .initConnection | .giveUp => some (.consumer .storagemgr)
  | .loopTest c | .process c | .loopBarrier c _ | .prepBarrier c => some (.consumer c)
  | .sbufferInsert _ | .sbufferGetData _ | .remove _ => none

namespace Locking

variable {α : Type}

def init : Locking α where
  gateway := Gateway.init fun _ => ()
  critical := fun _ => .outside
  lock := RwLock.free

/-- The mode in which a thread calls for the lock at its program counter. -/
def wants (s : Locking α) : Thread → Option Mode
  | .connmgr => if s.gateway.connmgr = .iteration then some .write else none
  | .consumer c =>
    match s.gateway.pc c with
    | .getData => some .read
    | .removing => some .write
    | _ => none

/-- `pthread_rwlock_rdlock` or `pthread_rwlock_wrlock`; the thread blocks while it gets `none`. -/
def acquire (s : Locking α) (t : Thread) : Option (Locking α) := do
  if s.critical t = .outside then
    let m ← s.wants t
    let lock ← s.lock.acquire m t
    some { s with lock := lock, critical := Function.update s.critical t (.locked m) }
  else none

/-- The section of `sbuffer_insert`. -/
def insert (s : Locking α) (m : α) : Option (Locking α) := do
  if s.critical .connmgr = .locked .write then
    let gateway ← s.gateway.insert m
    some { s with
      gateway := gateway
      critical := Function.update s.critical .connmgr (.unlocking .write) }
  else none

/-- The section of `sbuffer_get_data`. On `SBUFFER_NO_DATA` the unlock that follows is the
    caller's. -/
def getData (s : Locking α) (c : Consumer) : Option (Locking α) := do
  if s.critical (.consumer c) = .locked .read then
    let gateway ← s.gateway.getData c
    some { s with
      gateway := gateway
      critical := Function.update s.critical (.consumer c) (.unlocking .read) }
  else none

/-- The section of `sbuffer_remove`. Without a head the function returns and keeps the lock. -/
def remove (s : Locking α) (c : Consumer) : Option (Locking α) := do
  if s.critical (.consumer c) = .locked .write then
    let gateway ← s.gateway.remove c
    some { s with
      gateway := gateway
      critical := Function.update s.critical (.consumer c)
        (match s.gateway.buffer with
        | [] => .outside
        | _ :: _ => .unlocking .write) }
  else none

/-- `pthread_rwlock_unlock` -/
def release (s : Locking α) (t : Thread) : Option (Locking α) :=
  match s.critical t with
  | .unlocking _ => do
    let lock ← s.lock.unlock t
    some { s with lock := lock, critical := Function.update s.critical t .outside }
  | _ => none

def step (st : Setup α fun _ => Unit) (s : Locking α) : LockAction α → Option (Locking α)
  | .acquire t => s.acquire t
  | .insert m => s.insert m
  | .getData c => s.getData c
  | .remove c => s.remove c
  | .release t => s.release t
  | .other a => do
    let t ← a.thread
    if s.critical t = .outside then
      let gateway ← s.gateway.step st a
      some { s with gateway := gateway }
    else none

end Locking

end SensorGateway
