import SensorGateway.Dplist.Dplist

/-!
# What a `dplist` is for: a sequence of nodes

The mathematical reading of the calls. A list is the sequence of its node references with their
elements; an index is clamped into range, a reference or an element acts at its first position, and
nothing happens when it is not there.
-/

namespace SensorGateway

open PtrHeap DoublyLinked

variable {E B α : Type}

/-! ## The calls on a sequence of any kind -/

/-- clamp(i, 0, n) -/
def clampIndex (i : Int) (n : Nat) : Nat := min i.toNat n

def seqInsertAtIndex (xs : List α) (i : Int) (x : α) : List α :=
  xs.insertIdx (clampIndex i xs.length) x

def seqRemoveAtIndex (xs : List α) (i : Int) : List α :=
  xs.eraseIdx (clampIndex i (xs.length - 1))

def seqGetElementAtIndex (xs : List α) (i : Int) : Option α :=
  xs[clampIndex i (xs.length - 1)]?

/-- The index a search returns: `start + k` when it stops `k` nodes further, -1 when it finds
    nothing. -/
def foundIndex (start : Int) : Option Nat → Int
  | none => -1
  | some k => start + k

def seqGetIndexOf (p : α → Bool) (xs : List α) : Int :=
  foundIndex 0 (xs.findIdx? p)

@[simp] theorem foundIndex_none (start : Int) : foundIndex start none = -1 := rfl

@[simp] theorem foundIndex_some (start : Int) (k : Nat) :
    foundIndex start (some k) = start + k := rfl

theorem insertIdx_append_length (ys zs : List α) (x : α) :
    (ys ++ zs).insertIdx ys.length x = ys ++ x :: zs := by
  induction ys with
  | nil => simp
  | cons y ys ih => simpa using ih

theorem seqInsertAtIndex_of_nonpos {xs : List α} {i : Int} (hi : i ≤ 0) (x : α) :
    seqInsertAtIndex xs i x = x :: xs := by
  simp [seqInsertAtIndex, clampIndex, Int.toNat_eq_zero.mpr hi]

theorem seqGetElementAtIndex_of_lt {xs : List α} {k : Nat} (hk : k < xs.length) :
    seqGetElementAtIndex xs k = some xs[k] := by
  rw [seqGetElementAtIndex, clampIndex, Int.toNat_natCast, Nat.min_eq_left (by omega),
    List.getElem?_eq_getElem hk]

theorem seqRemoveAtIndex_of_lt {xs : List α} {k : Nat} (hk : k < xs.length) :
    seqRemoveAtIndex xs k = xs.eraseIdx k := by
  rw [seqRemoveAtIndex, clampIndex, Int.toNat_natCast, Nat.min_eq_left (by omega)]

/-! ## The calls on the nodes of a list -/

abbrev Nodes (E : Type) := List (Nat × Option E)

namespace Nodes

/-- The position of the node `reference`. -/
def indexOfReference (xs : Nodes E) (reference : Ptr) : Option Nat :=
  xs.findIdx? fun x => some x.1 = reference

/-- NULL matches NULL only; other elements match when they compare as equal. -/
def elementMatches (cb : Callbacks E B) : Option E → Option E → Bool
  | none, none => true
  | some e, some x => cb.elementCompare x e = 0
  | _, _ => false

/-- The position of the first node whose element matches. -/
def indexOfElement (cb : Callbacks E B) (xs : Nodes E) (element : Option E) : Option Nat :=
  xs.findIdx? fun x => elementMatches cb element x.2

/-- How `element` compares with the element of a node; every element goes after NULL. -/
def sortedCompare (cb : Callbacks E B) (element : E) : Option E → Int
  | none => 1
  | some x => cb.elementCompare element x

/-- The position in front of the first node that `element` does not have to go after. -/
def sortedIndex (cb : Callbacks E B) (xs : Nodes E) : Option E → Nat
  | none => 0
  | some e => xs.findIdx fun x => sortedCompare cb e x.2 ≠ 1

end Nodes

/-- The element that a new node holds. -/
def Callbacks.stored (cb : Callbacks E B) (element : Option E) (insertCopy : Bool) : Option E :=
  if insertCopy then cb.elementCopy element else element

/-- The effect of a call on the sequence, where `a` is the reference that an inserted node gets. -/
def Call.onNodes (cb : Callbacks E B) (a : Nat) (xs : Nodes E) : Call E → Nodes E
  | .insertAtIndex e i c => seqInsertAtIndex xs i (a, cb.stored e c)
  | .insertAtReference e r c =>
    match xs.indexOfReference r with
    | none => xs
    | some k => xs.insertIdx k (a, cb.stored e c)
  | .insertSorted e c => xs.insertIdx (xs.sortedIndex cb e) (a, cb.stored e c)
  | .removeAtIndex i _ => seqRemoveAtIndex xs i
  | .removeAtReference r _ =>
    match xs.indexOfReference r with
    | none => xs
    | some k => xs.eraseIdx k
  | .removeElement e _ =>
    match xs.indexOfElement cb e with
    | none => xs
    | some k => xs.eraseIdx k

/-- The pointer that a call returns: NULL for a NULL reference, except that a removal from the empty
    list returns the list. -/
def Call.returned (xs : Nodes E) : Call E → Returned
  | .insertAtReference _ none _ => .null
  | .removeAtReference none _ => if xs = [] then .list else .null
  | _ => .list

/-- The sequences that a list of calls can produce from the empty one: each new node gets a
    reference that is not in the list. -/
inductive SeqRun (cb : Callbacks E B) : List (Call E) → Nodes E → Prop where
  | nil : SeqRun cb [] []
  | snoc {calls : List (Call E)} {xs : Nodes E} {call : Call E} {a : Nat} (h : SeqRun cb calls xs)
      (ha : a ∉ xs.map Prod.fst) : SeqRun cb (calls ++ [call]) (call.onNodes cb a xs)

/-- The heap holds exactly the chain of `xs`: `head` points to the first node, every node points
    back to the one before it (the first to NULL) and on to the one after it (the last to NULL), and
    no node occurs twice. -/
structure IsChain (list : Dplist E B) (xs : Nodes E) : Prop where
  nodup : (xs.map Prod.fst).Nodup
  head : list.head = headPtr xs none
  links : Links list.heap none xs none

end SensorGateway
