import SensorGateway.Dplist.Sequence
import SensorGateway.Datamgr.Datamgr

/-!
# The blocks that a list releases

The two callbacks that the program registers to free an element, and a list that is taken apart by
removals and then freed, with `free_element` true throughout. Every block that is given to `free` is
logged; a node that is given to `free` a second time is a fault.
-/

namespace SensorGateway

open PtrHeap DoublyLinked

variable {E B : Type}

/-! ## Taking a list apart -/

/-- A removal with `free_element` true. -/
inductive Removal (E : Type) where
  | atIndex (index : Int)
  | atReference (reference : Ptr)
  | element (element : Option E)

def Removal.run (list : Dplist E B) : Removal E → Except Fault (Dplist E B)
  | .atIndex index => dplRemoveAtIndex list index true
  | .atReference reference => (dplRemoveAtReference list reference true).map Prod.snd
  | .element e => dplRemoveElement list e true

/-- The blocks that a removal from `list` released when it left `list'`: what it added to the log of
    element blocks, and the nodes that are not allocated any more. -/
def Dplist.releasedBy (list list' : Dplist E B) : List (Release B) :=
  (list'.released.drop list.released.length).map .block ++
    ((List.range list.heap.bound).filter fun a =>
      (list.heap.cells a).isSome && (list'.heap.cells a).isNone).map .node

/-- Removals followed by `dpl_free(&list, true)`, with every block that they release. -/
def removeThenFree (list : Dplist E B) : List (Removal E) → Except Fault (List (Release B))
  | [] => dplFree list true
  | removal :: removals => do
    let list' ← removal.run list
    let rest ← removeThenFree list' removals
    .ok (list.releasedBy list' ++ rest)

/-- No block is released twice, and the blocks that the elements own, the nodes and the list itself
    are all released. -/
structure ReleasedOnce (owned : E → List B) (xs : Nodes E) (released : List (Release B)) :
    Prop where
  nodup : released.Nodup
  elements : ∀ x ∈ xs, ∀ e, x.2 = some e → ∀ b ∈ owned e, .block b ∈ released
  nodes : ∀ x ∈ xs, .node x.1 ∈ released
  list : .list ∈ released

/-- The elements are allocated on the heap, and no block belongs to two of them or twice to one. -/
structure DistinctElements (owned : E → List B) (xs : Nodes E) : Prop where
  allocated : ∀ x ∈ xs, x.2 ≠ none
  distinct : (xs.flatMap fun x => x.2.toList.flatMap owned).Nodup

/-! ## Connections -/

/-- A `sensor_socket_t`, by the block it lies in. -/
structure ConnectionElement where
  block : Nat
deriving DecidableEq, Repr

/-- `callback_free`: the pointer keeps its value. `free(NULL)` does nothing. -/
def callbackFree (socketNode : Option ConnectionElement) : Option ConnectionElement × List Nat :=
  (socketNode, (socketNode.map ConnectionElement.block).toList)

def callbackCompare (_ _ : ConnectionElement) : Int := 0

/-- The callbacks of `connections_to_server`. The list calls `callback_copy` in insertions only. -/
def connectionCallbacks (callbackCopy : Option ConnectionElement → Option ConnectionElement) :
    Callbacks ConnectionElement Nat where
  elementCopy := callbackCopy
  elementFree := callbackFree
  elementCompare := callbackCompare
  block := ConnectionElement.block

def ConnectionElement.owned (connection : ConnectionElement) : List Nat := [connection.block]

/-! ## Sensors -/

/-- A `sensor_t`: its block, its id, and its temperatures, a list of its own whose elements are the
    blocks of the `double`s. The nodes of that list are named for the statements. -/
structure SensorElement where
  block : Nat
  sensorId : UInt16
  temperatures : Dplist Nat Nat
  nodes : Nodes Nat
  isChain : IsChain temperatures nodes

/-- A block that belongs to a sensor. The nodes and the list object of its temperatures are told
    apart by the sensor they belong to. -/
inductive SensorBlock where
  | sensor (block : Nat)
  | temperature (block : Nat)
  | node (sensor a : Nat)
  | list (sensor : Nat)
deriving DecidableEq, Repr

def SensorElement.nested (sensor : SensorElement) : Release Nat → SensorBlock
  | .block b => .temperature b
  | .node a => .node sensor.block a
  | .list => .list sensor.block

/-- `sensor_free`: `dpl_free(&temperatures, false)`, then the sensor, and the pointer becomes NULL.
    It is not called with NULL by these lists, and the `dpl_free` of a chain returns. -/
def sensorFree : Option SensorElement → Option SensorElement × List SensorBlock
  | none => (none, [])
  | some sensor =>
    match dplFree sensor.temperatures false with
    | .ok released => (none, released.map sensor.nested ++ [.sensor sensor.block])
    | .error _ => (some sensor, [])

/-- The callbacks of the sensor list. -/
def sensorCallbacks (sensorCopy : Option SensorElement → Option SensorElement) :
    Callbacks SensorElement SensorBlock where
  elementCopy := sensorCopy
  elementFree := sensorFree
  elementCompare := fun sensor1 sensor2 => sensorCompare sensor1.sensorId sensor2.sensorId
  block := fun sensor => .sensor sensor.block

/-- The values of the temperatures and the nodes they hang in, the list of them, and the sensor
    itself. -/
def SensorElement.owned (sensor : SensorElement) : List SensorBlock :=
  (sensor.nodes.flatMap fun x =>
    (x.2.map fun t => SensorBlock.temperature (sensor.temperatures.callbacks.block t)).toList ++
      [.node sensor.block x.1]) ++ [.list sensor.block, .sensor sensor.block]

/-! ## The registered callbacks -/

/-- Who keeps a list and registers callbacks for it. -/
inductive Registrant where
  | connmgr
  | datamgr
deriving DecidableEq, Repr

def Registrant.Element : Registrant → Type
  | .connmgr => ConnectionElement
  | .datamgr => SensorElement

def Registrant.Block : Registrant → Type
  | .connmgr => Nat
  | .datamgr => SensorBlock

def Registrant.callbacks : (registrant : Registrant) →
    (Option registrant.Element → Option registrant.Element) →
    Callbacks registrant.Element registrant.Block
  | .connmgr => connectionCallbacks
  | .datamgr => sensorCallbacks

def Registrant.owned : (registrant : Registrant) → registrant.Element → List registrant.Block
  | .connmgr => ConnectionElement.owned
  | .datamgr => SensorElement.owned

end SensorGateway
