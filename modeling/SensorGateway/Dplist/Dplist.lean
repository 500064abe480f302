import SensorGateway.Lib.DoublyLinked

/-!
# The pointer list `dplist`

`dplist_t` is a `head` pointer into a heap of doubly linked nodes, plus three callbacks on the
`void *` elements (`none` is the NULL element). A value of type `Dplist` is the object a non-NULL
`dplist_t *` points to, together with the heap it lives in and the blocks that were given to `free`
besides the nodes; the guards `list == NULL` are therefore not part of the functions. Allocation
succeeds, and the list stays shorter than an `int` can count.
-/

namespace SensorGateway

open PtrHeap DoublyLinked

/-- The callbacks given to `dpl_create`; `elementFree` returns what it leaves in the element field
    and the blocks it frees. -/
structure Callbacks (E B : Type) where
  elementCopy : Option E → Option E
  elementFree : Option E → Option E × List B
  elementCompare : E → E → Int
  /-- the block that `free(element)` releases -/
  block : E → B

structure Dplist (E B : Type) where
  head : Ptr
  callbacks : Callbacks E B
  heap : Heap (Node (Option E))
  released : List B

variable {E B : Type}

def dplCreate (callbacks : Callbacks E B) : Dplist E B where
  head := none
  callbacks := callbacks
  heap := Heap.empty
  released := []

/-! ## Queries

Every loop gets one unit of fuel more than the heap has cells. -/

def Dplist.fuel (list : Dplist E B) : Nat := list.heap.bound + 1

def sizeLoop (h : Heap (Node (Option E))) : Nat → Ptr → Int → Except Fault Int
  | 0, _, _ => .error .diverges
  | _ + 1, none, count => .ok count
  | fuel + 1, some a, count => do
    let tempNode ← h.load (some a)
    sizeLoop h fuel tempNode.next (count + 1)

def dplSize (list : Dplist E B) : Except Fault Int :=
  sizeLoop list.heap list.fuel list.head 0

def referenceLoop (h : Heap (Node (Option E))) (index : Int) : Nat → Ptr → Int → Except Fault Ptr
  | 0, _, _ => .error .diverges
  | fuel + 1, dummy, count => do
    let node ← h.load dummy
    if node.next ≠ none then
      if count ≥ index then .ok dummy else referenceLoop h index fuel node.next (count + 1)
    else .ok dummy

def dplGetReferenceAtIndex (list : Dplist E B) (index : Int) : Except Fault Ptr :=
  if list.head = none then .ok none
  else referenceLoop list.heap index list.fuel list.head 0

def dplGetElementAtIndex (list : Dplist E B) (index : Int) : Except Fault (Option E) := do
  let currentNode ← dplGetReferenceAtIndex list index
  if currentNode = none then .ok none
  else
    let node ← list.heap.load currentNode
    .ok node.element

def indexOfElementLoop (list : Dplist E B) (element : Option E) :
    Nat → Ptr → Int → Except Fault Int
  | 0, _, _ => .error .diverges
  | _ + 1, none, _ => .ok (-1)
  | fuel + 1, some a, index => do
    let tempNode ← list.heap.load (some a)
    match element, tempNode.element with
    | none, none => .ok index
    | _, none => indexOfElementLoop list element fuel tempNode.next (index + 1)
    | none, _ => indexOfElementLoop list element fuel tempNode.next (index + 1)
    | some e, some x =>
      if list.callbacks.elementCompare x e = 0 then .ok index
      else indexOfElementLoop list element fuel tempNode.next (index + 1)

def dplGetIndexOfElement (list : Dplist E B) (element : Option E) : Except Fault Int :=
  indexOfElementLoop list element list.fuel list.head 0

def indexOfReferenceLoop (h : Heap (Node (Option E))) (reference : Ptr) :
    Nat → Ptr → Int → Except Fault Int
  | 0, _, _ => .error .diverges
  | _ + 1, none, _ => .ok (-1)
  | fuel + 1, some a, count =>
    if some a = reference then .ok count
    else do
      let tempNode ← h.load (some a)
      indexOfReferenceLoop h reference fuel tempNode.next (count + 1)

def dplGetIndexOfReference (list : Dplist E B) (reference : Ptr) : Except Fault Int :=
  if reference = none ∨ list.head = none then .ok (-1)
  else indexOfReferenceLoop list.heap reference list.fuel list.head 0

def dplGetReferenceOfElement (list : Dplist E B) (element : Option E) : Except Fault Ptr := do
  if list.head = none then .ok none
  else
    let index ← dplGetIndexOfElement list element
    if index = -1 then .ok none else dplGetReferenceAtIndex list index

/-- The loop that the three queries by reference share: what they read from the node `reference`. -/
def readReferenceLoop {α : Type} (h : Heap (Node (Option E))) (field : Node (Option E) → Option α)
    (reference : Ptr) : Nat → Ptr → Except Fault (Option α)
  | 0, _ => .error .diverges
  | _ + 1, none => .ok none
  | fuel + 1, some a => do
    let tempNode ← h.load (some a)
    if some a = reference then .ok (field tempNode)
    else readReferenceLoop h field reference fuel tempNode.next

def readReference {α : Type} (list : Dplist E B) (field : Node (Option E) → Option α)
    (reference : Ptr) : Except Fault (Option α) :=
  if reference = none ∨ list.head = none then .ok none
  else readReferenceLoop list.heap field reference list.fuel list.head

def dplGetElementAtReference (list : Dplist E B) (reference : Ptr) : Except Fault (Option E) :=
  readReference list Node.element reference

def dplGetFirstReference (list : Dplist E B) : Ptr :=
  if list.head = none then none else list.head

def dplGetLastReference (list : Dplist E B) : Except Fault Ptr := do
  if list.head = none then .ok none
  else
    let size ← dplSize list
    dplGetReferenceAtIndex list (size - 1)

def dplGetNextReference (list : Dplist E B) (reference : Ptr) : Except Fault Ptr :=
  readReference list Node.next reference

def dplGetPreviousReference (list : Dplist E B) (reference : Ptr) : Except Fault Ptr :=
  readReference list Node.prev reference

/-! ## Insertion -/

def dplInsertAtIndex (m : Allocator (Node (Option E))) (list : Dplist E B) (element : Option E)
    (index : Int) (insertCopy : Bool) : Except Fault (Dplist E B) := do
  let a := m.malloc list.heap
  -- `prev` and `next` are set below, in every branch
  let listNode := ⟨none, none, if insertCopy then list.callbacks.elementCopy element else element⟩
  let h := list.heap.write a listNode
  if list.head = none then
    let h ← h.modify (some a) fun n => { n with prev := none }
    let h ← h.modify (some a) fun n => { n with next := none }
    .ok { list with head := some a, heap := h }
  else if index ≤ 0 then
    let h ← h.modify (some a) fun n => { n with prev := none }
    let h ← h.modify (some a) fun n => { n with next := list.head }
    let h ← h.modify list.head fun n => { n with prev := some a }
    .ok { list with head := some a, heap := h }
  else
    let refAtIndex ← dplGetReferenceAtIndex { list with heap := h } index
    assertThat (refAtIndex ≠ none)
    let size ← dplSize { list with heap := h }
    let ref ← h.load refAtIndex
    if index < size then
      let h ← h.modify (some a) fun n => { n with prev := ref.prev }
      let h ← h.modify (some a) fun n => { n with next := refAtIndex }
      let h ← h.modify ref.prev fun n => { n with next := some a }
      let h ← h.modify refAtIndex fun n => { n with prev := some a }
      .ok { list with heap := h }
    else
      assertThat (ref.next = none)
      let h ← h.modify (some a) fun n => { n with next := none }
      let h ← h.modify (some a) fun n => { n with prev := refAtIndex }
      let h ← h.modify refAtIndex fun n => { n with next := some a }
      .ok { list with heap := h }

/-- The pointer that a function of the list returns: `list` itself or NULL. -/
inductive Returned where
  | list
  | null
deriving DecidableEq, Repr

def dplInsertAtReference (m : Allocator (Node (Option E))) (list : Dplist E B) (element : Option E)
    (reference : Ptr) (insertCopy : Bool) : Except Fault (Returned × Dplist E B) := do
  if reference = none then .ok (.null, list)
  else
    let index ← dplGetIndexOfReference list reference
    if index = -1 then .ok (.list, list)
    else
      let list' ← dplInsertAtIndex m list element index insertCopy
      .ok (.list, list')

/-- The loop of `dpl_insert_sorted`: the index it inserts at. A comparison result above 1 satisfies
    neither test of the loop body, which then repeats for ever. -/
def insertSortedLoop (list : Dplist E B) (element : E) : Nat → Ptr → Int → Except Fault Int
  | 0, _, _ => .error .diverges
  | _ + 1, none, index => .ok index
  | fuel + 1, some a, index => do
    let currentNode ← list.heap.load (some a)
    let compare : Int :=
      match currentNode.element with
      | none => 1
      | some x => list.callbacks.elementCompare element x
    if compare = 1 then insertSortedLoop list element fuel currentNode.next (index + 1)
    else if compare ≤ 0 then .ok index
    else .error .diverges

def dplInsertSorted (m : Allocator (Node (Option E))) (list : Dplist E B) (element : Option E)
    (insertCopy : Bool) : Except Fault (Dplist E B) := do
  if list.head = none then dplInsertAtIndex m list element 0 insertCopy
  else
    match element with
    | none => dplInsertAtIndex m list element 0 insertCopy
    | some e =>
      let index ← insertSortedLoop list e list.fuel list.head 0
      dplInsertAtIndex m list element index insertCopy

/-! ## Removal -/

def dplRemoveAtIndex (list : Dplist E B) (index : Int) (freeElement : Bool) :
    Except Fault (Dplist E B) := do
  if list.head = none then .ok list
  else
    let h := list.heap
    let toDeleteNode ← dplGetReferenceAtIndex list index
    let first ← h.load list.head
    let size ← dplSize list
    let toDelete ← h.load toDeleteNode
    let (head, h) ←
      if first.next = none then .ok (none, h)
      else if index ≤ 0 then do
        let h ← h.modify first.next fun n => { n with prev := none }
        .ok (first.next, h)
      else if index < size - 1 then do
        let h ← h.modify toDelete.next fun n => { n with prev := toDelete.prev }
        let h ← h.modify toDelete.prev fun n => { n with next := toDelete.next }
        .ok (list.head, h)
      else do
        let h ← h.modify toDelete.prev fun n => { n with next := none }
        .ok (list.head, h)
    let (element, blocks) :=
      if freeElement then list.callbacks.elementFree toDelete.element else (toDelete.element, [])
    let h ← h.free toDeleteNode
    .ok { list with
      head := head
      heap := h
      released := list.released ++ blocks ++ (element.map list.callbacks.block).toList }

def dplRemoveAtReference (list : Dplist E B) (reference : Ptr) (freeElement : Bool) :
    Except Fault (Returned × Dplist E B) := do
  if list.head = none then .ok (.list, list)
  else if reference = none then .ok (.null, list)
  else
    let index ← dplGetIndexOfReference list reference
    if index = -1 then .ok (.list, list)
    else
      let list' ← dplRemoveAtIndex list index freeElement
      .ok (.list, list')

def dplRemoveElement (list : Dplist E B) (element : Option E) (freeElement : Bool) :
    Except Fault (Dplist E B) := do
  if list.head = none then .ok list
  else
    let index ← dplGetIndexOfElement list element
    if index = -1 then .ok list else dplRemoveAtIndex list index freeElement

/-- A block that is given to `free` when a list is released. -/
inductive Release (B : Type) where
  | block (b : B)
  | node (a : Nat)
  | list
deriving DecidableEq, Repr

/-- The loop of `dpl_free`: the blocks it releases, in order. The callback only sees elements that
    are not NULL, and what it leaves in the element field is freed after it. -/
def dplFreeLoop (callbacks : Callbacks E B) (freeElement : Bool) :
    Nat → Heap (Node (Option E)) → Ptr → Except Fault (List (Release B))
  | 0, _, _ => .error .diverges
  | _ + 1, _, none => .ok []
  | fuel + 1, h, some a => do
    let temp ← h.load (some a)
    let (element, blocks) :=
      if freeElement ∧ temp.element.isSome then callbacks.elementFree temp.element
      else (temp.element, [])
    let h ← h.free (some a)
    let rest ← dplFreeLoop callbacks freeElement fuel h temp.next
    .ok ((blocks ++ (element.map callbacks.block).toList).map .block ++ .node a :: rest)

/-- The list object does not exist any more afterwards, so the result is what was released. -/
def dplFree (list : Dplist E B) (freeElement : Bool) : Except Fault (List (Release B)) := do
  let released ← dplFreeLoop list.callbacks freeElement list.fuel list.heap list.head
  .ok (released ++ [.list])

/-! ## Runs -/

/-- A call that changes the list. -/
inductive Call (E : Type) where
  | insertAtIndex (element : Option E) (index : Int) (insertCopy : Bool)
  | insertAtReference (element : Option E) (reference : Ptr) (insertCopy : Bool)
  | insertSorted (element : Option E) (insertCopy : Bool)
  | removeAtIndex (index : Int) (freeElement : Bool)
  | removeAtReference (reference : Ptr) (freeElement : Bool)
  | removeElement (element : Option E) (freeElement : Bool)

/-- The object after a call, and the pointer the call returns. -/
def Call.run (m : Allocator (Node (Option E))) (list : Dplist E B) :
    Call E → Except Fault (Returned × Dplist E B)
  | .insertAtIndex e i c => (dplInsertAtIndex m list e i c).map (.list, ·)
  | .insertAtReference e r c => dplInsertAtReference m list e r c
  | .insertSorted e c => (dplInsertSorted m list e c).map (.list, ·)
  | .removeAtIndex i f => (dplRemoveAtIndex list i f).map (.list, ·)
  | .removeAtReference r f => dplRemoveAtReference list r f
  | .removeElement e f => (dplRemoveElement list e f).map (.list, ·)

def runCalls (m : Allocator (Node (Option E))) (list : Dplist E B) :
    List (Call E) → Except Fault (Dplist E B)
  | [] => .ok list
  | call :: calls => do
    let (_, list') ← call.run m list
    runCalls m list' calls

end SensorGateway
