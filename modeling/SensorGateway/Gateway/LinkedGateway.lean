import SensorGateway.Gateway.Sbuffer

/-!
# The threads over the nodes of the shared buffer

The threads of `Gateway` with their three sections on the pointers of `sbuffer_t`: a section may
fault, and what the threads read comes from the nodes. The field `buffer` of `gateway` is not used
here. `main` calls `sbuffer_free` after it has joined the threads.
-/

namespace SensorGateway

open PtrHeap SinglyLinked

variable {α : Type} {σ : Consumer → Type}

/-- The loop of `sbuffer_free` over the nodes from `head` on. -/
def Sbuffer.freeLoop : Nat → Ptr → Heap (Node α) → Except Fault (Heap (Node α))
  | 0, _, _ => .error .diverges
  | _ + 1, none, h => .ok h
  | fuel + 1, some a, h => do
    let dummy ← h.load (some a)
    let h ← h.free (some a)
    Sbuffer.freeLoop fuel dummy.next h

/-- `sbuffer_free`: the nodes that are left. -/
def Sbuffer.free (buffer : Sbuffer α) : Except Fault (Heap (Node α)) :=
  Sbuffer.freeLoop (buffer.heap.bound + 1) buffer.head buffer.heap

structure LinkedGateway (α : Type) (σ : Consumer → Type) where
  gateway : Gateway α σ
  nodes : Sbuffer α

namespace LinkedGateway

def init (acc : (c : Consumer) → σ c) : LinkedGateway α σ where
  gateway := Gateway.init acc
  nodes := Sbuffer.init

/-! ## The lock-protected sections -/

def insert (m : Allocator (Node α)) (s : LinkedGateway α σ) (d : α) :
    Option (Except Fault (LinkedGateway α σ)) :=
  if s.gateway.connmgr = .iteration ∧ s.gateway.wrlocked = none then
    some do
      let (_, nodes) ← s.nodes.insert m d
      .ok ⟨{ s.gateway with inserted := s.gateway.inserted ++ [d] }, nodes⟩
  else none

def getData (s : LinkedGateway α σ) (c : Consumer) : Option (Except Fault (LinkedGateway α σ)) :=
  if s.gateway.pc c = .getData ∧ s.gateway.wrlocked = none then
    some do
      let (result, data) ← s.nodes.getData (s.gateway.data c)
      .ok { s with
        gateway := { s.gateway with
          result := Function.update s.gateway.result c result
          data := Function.update s.gateway.data c data
          pc := Function.update s.gateway.pc c
            (if result = sbufferNoData then .loopTest else .process) } }
  else none

/-- When `sbuffer_remove` finds no data it returns with the write lock held. -/
def remove (s : LinkedGateway α σ) (c : Consumer) : Option (Except Fault (LinkedGateway α σ)) :=
  if s.gateway.pc c = .removing ∧ s.gateway.wrlocked = none then
    some do
      let (result, data, nodes) ← s.nodes.remove (s.gateway.data c)
      if result = sbufferNoData then
        .ok ⟨{ s.gateway with
          wrlocked := some c
          pc := Function.update s.gateway.pc c .prepBarrier }, nodes⟩
      else
        .ok ⟨{ s.gateway with
          data := Function.update s.gateway.data c data
          removed := s.gateway.removed ++ data.toList
          pc := Function.update s.gateway.pc c .prepBarrier }, nodes⟩
  else none

/-! ## Steps -/

/-- `none` when the step is not enabled, an error when it faults. -/
def step (m : Allocator (Node α)) (st : Setup α σ) (s : LinkedGateway α σ) :
    Action α → Option (Except Fault (LinkedGateway α σ))
  | .sbufferInsert d => s.insert m d
  | .sbufferGetData c => s.getData c
  | .remove c => s.remove c
  | a => (s.gateway.step st a).map fun gateway => .ok { s with gateway := gateway }

/-- The steps that do not fault. -/
def next (m : Allocator (Node α)) (st : Setup α σ) (s : LinkedGateway α σ) (a : Action α) :
    Option (LinkedGateway α σ) :=
  (s.step m st a).bind Except.toOption

/-- The threads over the sequence of the measurements `queue`. -/
def withQueue (s : LinkedGateway α σ) (queue : List α) : Gateway α σ :=
  { s.gateway with buffer := queue }

end LinkedGateway

end SensorGateway
