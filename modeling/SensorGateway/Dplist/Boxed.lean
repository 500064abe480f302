import SensorGateway.Dplist.Sequence

/-!
# Lists of pointers to blocks

The lists of the program hold pointers to blocks that their users have allocated. Such a list is
read together with the memory of these blocks: an entry is a node, its element and the value that
the block of the element holds.
-/

namespace SensorGateway

open PtrHeap DoublyLinked

variable {E N : Type}

structure Entry (E N : Type) where
  node : Nat
  element : E
  value : N

/-- `free` of one block after the other. -/
def freeBlocks (memory : Heap N) : List Nat → Except Fault (Heap N)
  | [] => .ok memory
  | b :: blocks => do
    let memory ← memory.free (some b)
    freeBlocks memory blocks

/-- `dpl_remove_at_index(list, index, false)`, with what it releases in the memory of the
    elements. -/
def removeBoxed (list : Dplist E Nat) (memory : Heap N) (index : Int) :
    Except Fault (Dplist E Nat × Heap N) := do
  let list' ← dplRemoveAtIndex list index false
  let memory ← freeBlocks memory (list'.released.drop list.released.length)
  .ok (list', memory)

/-- The blocks of elements among the releases. -/
def elementBlocks (released : List (Release Nat)) : List Nat :=
  released.filterMap fun
    | .block b => some b
    | _ => none

/-- What an element points to. -/
def Dplist.pointer (list : Dplist E Nat) (element : Option E) : Ptr :=
  element.map list.callbacks.block

/-- The list has these entries and no other node, and the block of every element is its own. -/
structure Boxed (list : Dplist E Nat) (memory : Heap N) (entries : List (Entry E N)) : Prop where
  chain : IsChain list (entries.map fun x => (x.node, some x.element))
  nodes : ∀ a, list.heap.cells a ≠ none → a ∈ entries.map Entry.node
  distinct : (entries.map fun x => list.callbacks.block x.element).Nodup
  cells : ∀ x ∈ entries, memory.cells (list.callbacks.block x.element) = some x.value

/-- The memory has nothing but the blocks of the list. -/
structure Owned (list : Dplist E Nat) (memory : Heap N) (entries : List (Entry E N)) : Prop
    extends Boxed list memory entries where
  only : ∀ b, memory.cells b ≠ none → b ∈ entries.map fun x => list.callbacks.block x.element

/-- The blocks of the elements of a list. -/
def listBlocks (x : Dplist E Nat × List (Entry E N)) : List Nat :=
  x.2.map fun y => x.1.callbacks.block y.element

/-- Several lists share the memory, and it has nothing but their blocks. -/
structure Shared (memory : Heap N) (lists : List (Dplist E Nat × List (Entry E N))) : Prop where
  boxed : ∀ x ∈ lists, Boxed x.1 memory x.2
  distinct : (lists.flatMap listBlocks).Nodup
  only : ∀ b, memory.cells b ≠ none → b ∈ lists.flatMap listBlocks

end SensorGateway
