import SensorGateway.Gateway.Threads
import SensorGateway.Lib.SinglyLinked

/-!
# The nodes of the shared buffer

`sbuffer_t` with its `head` and `tail` pointers into a heap of nodes: what the functions of
`sbuffer.c` do to the nodes between taking the lock and releasing it. Allocation succeeds.
-/

namespace SensorGateway

open PtrHeap SinglyLinked

variable {α : Type}

structure Sbuffer (α : Type) where
  head : Ptr
  tail : Ptr
  heap : Heap (Node α)

namespace Sbuffer

/-- `sbuffer_init` -/
def init : Sbuffer α where
  head := none
  tail := none
  heap := Heap.empty

/-- `sbuffer_get_data`: the result and `*data`. -/
def getData (buffer : Sbuffer α) (data : Option α) : Except Fault (Int × Option α) := do
  if buffer.head = none then .ok (sbufferNoData, data)
  else
    let node ← buffer.heap.load buffer.head
    .ok (sbufferSuccess, some node.element)

/-- `sbuffer_insert` -/
def insert (m : Allocator (Node α)) (buffer : Sbuffer α) (data : α) :
    Except Fault (Int × Sbuffer α) := do
  let dummy := m.malloc buffer.heap
  let h := buffer.heap.write dummy ⟨none, data⟩
  if buffer.tail = none then
    .ok (sbufferSuccess, { buffer with head := some dummy, tail := some dummy, heap := h })
  else
    let h ← h.modify buffer.tail fun n => { n with next := some dummy }
    let tail ← h.load buffer.tail
    .ok (sbufferSuccess, { buffer with tail := tail.next, heap := h })

/-- What the serial thread does in `sbuffer_remove`: the result, `*data` and the buffer. -/
def remove (buffer : Sbuffer α) (data : Option α) : Except Fault (Int × Option α × Sbuffer α) := do
  if buffer.head = none then .ok (sbufferNoData, data, buffer)
  else
    let dummy ← buffer.heap.load buffer.head
    let (head, tail) :=
      if buffer.head = buffer.tail then (none, none) else (dummy.next, buffer.tail)
    let h ← buffer.heap.free buffer.head
    .ok (sbufferSuccess, some dummy.element, { head := head, tail := tail, heap := h })

/-! ## Runs -/

/-- A call that changes the buffer. -/
inductive Call (α : Type) where
  | insert (data : α)
  | remove

/-- The buffer after a call, what the call returns and what is in `*data`. -/
def call (m : Allocator (Node α)) (buffer : Sbuffer α) (data : Option α) :
    Call α → Except Fault (Int × Option α × Sbuffer α)
  | .insert d => do
    let (result, buffer) ← buffer.insert m d
    .ok (result, data, buffer)
  | .remove => buffer.remove data

/-- The buffer after a sequence of calls, with what every call returned. -/
def runCalls (m : Allocator (Node α)) (buffer : Sbuffer α) (data : Option α) :
    List (Call α) → Except Fault (List (Int × Option α) × Sbuffer α)
  | [] => .ok ([], buffer)
  | c :: calls => do
    let (result, data, buffer) ← buffer.call m data c
    let (results, buffer) ← runCalls m buffer data calls
    .ok ((result, data) :: results, buffer)

/-! ## What the buffer is for: a queue -/

/-- Enqueue at the end, dequeue at the front. -/
def Call.onQueue (queue : List α) (data : Option α) : Call α → Int × Option α × List α
  | .insert d => (sbufferSuccess, data, sbufferInsert queue d)
  | .remove =>
    match queue with
    | [] => (sbufferNoData, data, [])
    | d :: queue => (sbufferSuccess, some d, queue)

def queueCalls (queue : List α) (data : Option α) :
    List (Call α) → List (Int × Option α) × List α
  | [] => ([], queue)
  | c :: calls =>
    let (result, data, queue) := c.onQueue queue data
    let (results, queue) := queueCalls queue data calls
    ((result, data) :: results, queue)

/-- From `head` the chain of the nodes `xs` ends at `tail`, no node occurs twice, and all of them
    are allocated. -/
structure IsQueue (buffer : Sbuffer α) (xs : List (Nat × α)) : Prop where
  nodup : (xs.map Prod.fst).Nodup
  head : buffer.head = DoublyLinked.headPtr xs none
  tail : buffer.tail = DoublyLinked.lastPtr none xs
  chain : Chain buffer.heap xs none

end Sbuffer

end SensorGateway
