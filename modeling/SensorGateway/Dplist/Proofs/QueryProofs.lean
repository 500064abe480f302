import SensorGateway.Dplist.Sequence
import Mathlib.Tactic

/-!
# The queries of a `dplist` on a chain

Each loop is followed along a segment of the chain: the pointer it holds is the head of the rest of
the segment, and the fuel exceeds the number of nodes that are left.
-/

namespace SensorGateway

open PtrHeap DoublyLinked

variable {E B : Type} {list : Dplist E B} {xs : Nodes E} {h : Heap (Node (Option E))} {p : Ptr}

theorem IsChain.length_lt_fuel (hc : IsChain list xs) : xs.length < list.fuel :=
  Nat.lt_succ_of_le (hc.links.length_le hc.nodup)

theorem IsChain.head_eq_none_iff (hc : IsChain list xs) : list.head = none ↔ xs = [] := by
  rw [hc.head]
  cases xs <;> simp [headPtr]

theorem isChain_dplCreate (cb : Callbacks E B) : IsChain (dplCreate cb) [] where
  nodup := List.nodup_nil
  head := rfl
  links := links_nil

/-- A chain does not see a node that is allocated beside it. -/
theorem IsChain.write_unused (hc : IsChain list xs) {a : Nat} {n : Node (Option E)}
    (ha : list.heap.cells a = none) :
    IsChain { list with heap := list.heap.write a n } xs where
  nodup := hc.nodup
  head := hc.head
  links := hc.links.write (hc.links.not_mem ha)

theorem sizeLoop_spec (hl : Links h p xs none) {fuel : Nat} (hf : xs.length < fuel) (count : Int) :
    sizeLoop h fuel (headPtr xs none) count = .ok (count + xs.length) := by
  induction xs generalizing p fuel count with
  | nil =>
    obtain ⟨fuel, rfl⟩ := Nat.exists_eq_succ_of_ne_zero (by omega : fuel ≠ 0)
    simp [sizeLoop]
  | cons x xs ih =>
    obtain ⟨fuel, rfl⟩ := Nat.exists_eq_succ_of_ne_zero (by omega : fuel ≠ 0)
    rw [List.length_cons] at hf
    show (do let n ← h.load (some x.1); sizeLoop h fuel n.next (count + 1)) = _
    rw [Heap.load_some hl.1, ok_bind, ih hl.2 (by omega)]
    simp
    omega

theorem dplSize_spec (hc : IsChain list xs) : dplSize list = .ok (xs.length : Int) := by
  rw [dplSize, hc.head, sizeLoop_spec hc.links hc.length_lt_fuel, zero_add]

theorem referenceLoop_spec (hl : Links h p xs none) (hne : xs ≠ []) {fuel : Nat}
    (hf : xs.length < fuel) (index count : Int) :
    referenceLoop h index fuel (headPtr xs none) count =
      .ok (xs[clampIndex (index - count) (xs.length - 1)]?.map Prod.fst) := by
  induction xs generalizing p fuel count with
  | nil => exact absurd rfl hne
  | cons x xs ih =>
    obtain ⟨fuel, rfl⟩ := Nat.exists_eq_succ_of_ne_zero (by omega : fuel ≠ 0)
    rw [List.length_cons] at hf
    rw [headPtr, referenceLoop, Heap.load_some hl.1, ok_bind]
    cases xs with
    | nil => simp [clampIndex]
    | cons y ys =>
      have hnext : headPtr (y :: ys) (none : Ptr) ≠ none := by simp [headPtr]
      rw [if_pos hnext]
      by_cases hle : count ≥ index
      · have h0 : clampIndex (index - count) ((x :: y :: ys).length - 1) = 0 := by
          simp [clampIndex]
          omega
        rw [if_pos hle, h0]
        simp
      · have hs : clampIndex (index - count) ((x :: y :: ys).length - 1) =
            clampIndex (index - (count + 1)) ((y :: ys).length - 1) + 1 := by
          simp only [clampIndex, List.length_cons]
          omega
        rw [if_neg hle, ih hl.2 (by simp) (by omega), hs, List.getElem?_cons_succ]

theorem dplGetReferenceAtIndex_spec (hc : IsChain list xs) (index : Int) :
    dplGetReferenceAtIndex list index =
      .ok (xs[clampIndex index (xs.length - 1)]?.map Prod.fst) := by
  rw [dplGetReferenceAtIndex]
  by_cases hnil : xs = []
  · rw [if_pos (hc.head_eq_none_iff.mpr hnil), hnil]
    simp
  · rw [if_neg fun hn => hnil (hc.head_eq_none_iff.mp hn), hc.head,
      referenceLoop_spec hc.links hnil hc.length_lt_fuel, sub_zero]

theorem dplGetReferenceAtIndex_at (ys : Nodes E) {zs : Nodes E} {x : Nat × Option E}
    (hc : IsChain list (ys ++ x :: zs)) (index : Int)
    (hpos : clampIndex index ((ys ++ x :: zs).length - 1) = ys.length) :
    dplGetReferenceAtIndex list index = .ok (some x.1) := by
  rw [dplGetReferenceAtIndex_spec hc, hpos]
  simp

theorem exists_split_at {α : Type} {l : List α} {k : Nat} (hk : k < l.length) :
    ∃ ys x zs, l = ys ++ x :: zs ∧ ys.length = k :=
  ⟨l.take k, l[k], l.drop (k + 1), by simp, by simp; omega⟩

theorem dplGetElementAtIndex_spec (hc : IsChain list xs) (index : Int) :
    dplGetElementAtIndex list index = .ok (seqGetElementAtIndex (xs.map Prod.snd) index).join := by
  rw [dplGetElementAtIndex, dplGetReferenceAtIndex_spec hc, ok_bind, seqGetElementAtIndex,
    List.length_map]
  by_cases hk : clampIndex index (xs.length - 1) < xs.length
  · obtain ⟨ys, x, zs, rfl, hys⟩ := exists_split_at hk
    obtain ⟨-, hx, -⟩ := links_append.mp hc.links
    rw [← hys]
    simp [Heap.load_some hx]
  · rw [List.getElem?_eq_none (by omega), List.getElem?_eq_none (by simpa using hk)]
    rfl

theorem foundIndex_map_succ (start : Int) (o : Option Nat) :
    foundIndex start (o.map (· + 1)) = foundIndex (start + 1) o := by
  cases o with
  | none => rfl
  | some k =>
    simp
    omega

theorem indexOfReferenceLoop_spec (hl : Links h p xs none) {fuel : Nat} (hf : xs.length < fuel)
    (reference : Ptr) (count : Int) :
    indexOfReferenceLoop h reference fuel (headPtr xs none) count =
      .ok (foundIndex count (xs.indexOfReference reference)) := by
  induction xs generalizing p fuel count with
  | nil =>
    obtain ⟨fuel, rfl⟩ := Nat.exists_eq_succ_of_ne_zero (by omega : fuel ≠ 0)
    rfl
  | cons x xs ih =>
    obtain ⟨fuel, rfl⟩ := Nat.exists_eq_succ_of_ne_zero (by omega : fuel ≠ 0)
    rw [List.length_cons] at hf
    rw [headPtr, indexOfReferenceLoop, Nodes.indexOfReference, List.findIdx?_cons]
    by_cases hx : some x.1 = reference
    · simp [hx]
    · rw [if_neg hx, Heap.load_some hl.1, ok_bind, ih hl.2 (by omega)]
      simp [hx, foundIndex_map_succ, Nodes.indexOfReference]

theorem dplGetIndexOfReference_spec (hc : IsChain list xs) (reference : Ptr) :
    dplGetIndexOfReference list reference =
      .ok (foundIndex 0 (xs.indexOfReference reference)) := by
  rw [dplGetIndexOfReference]
  split_ifs with hnone
  · rcases hnone with rfl | hhead
    · simp [Nodes.indexOfReference, List.findIdx?_eq_none_iff.mpr]
    · rw [hc.head_eq_none_iff.mp hhead]
      rfl
  · rw [hc.head, indexOfReferenceLoop_spec hc.links hc.length_lt_fuel]

theorem indexOfElementLoop_spec (hl : Links list.heap p xs none) {fuel : Nat}
    (hf : xs.length < fuel) (element : Option E) (index : Int) :
    indexOfElementLoop list element fuel (headPtr xs none) index =
      .ok (foundIndex index (xs.indexOfElement list.callbacks element)) := by
  induction xs generalizing p fuel index with
  | nil =>
    obtain ⟨fuel, rfl⟩ := Nat.exists_eq_succ_of_ne_zero (by omega : fuel ≠ 0)
    rfl
  | cons x xs ih =>
    obtain ⟨fuel, rfl⟩ := Nat.exists_eq_succ_of_ne_zero (by omega : fuel ≠ 0)
    rw [List.length_cons] at hf
    have hrec := ih hl.2 (by omega : xs.length < fuel) (index + 1)
    rw [headPtr, indexOfElementLoop, Heap.load_some hl.1, ok_bind, Nodes.indexOfElement,
      List.findIdx?_cons]
    obtain ⟨a, x⟩ := x
    cases element with
    | none =>
      cases x with
      | none => simp [Nodes.elementMatches]
      | some x => simp [Nodes.elementMatches, foundIndex_map_succ, hrec, Nodes.indexOfElement]
    | some e =>
      cases x with
      | none => simp [Nodes.elementMatches, foundIndex_map_succ, hrec, Nodes.indexOfElement]
      | some x =>
        by_cases hx : list.callbacks.elementCompare x e = 0
        · simp [Nodes.elementMatches, hx]
        · simp [Nodes.elementMatches, hx, foundIndex_map_succ, hrec, Nodes.indexOfElement]

theorem dplGetIndexOfElement_spec (hc : IsChain list xs) (element : Option E) :
    dplGetIndexOfElement list element =
      .ok (foundIndex 0 (xs.indexOfElement list.callbacks element)) := by
  rw [dplGetIndexOfElement, hc.head, indexOfElementLoop_spec hc.links hc.length_lt_fuel]

/-- The search of `dpl_insert_sorted` stops at the sorted position, unless it meets a comparison
    result above 1. -/
theorem insertSortedLoop_spec (hl : Links list.heap p xs none) {fuel : Nat} (hf : xs.length < fuel)
    (e : E) (index : Int) :
    insertSortedLoop list e fuel (headPtr xs none) index =
        .ok (index + xs.sortedIndex list.callbacks (some e)) ∨
      insertSortedLoop list e fuel (headPtr xs none) index = .error .diverges ∧
        ∃ x, 1 < list.callbacks.elementCompare e x := by
  induction xs generalizing p fuel index with
  | nil =>
    obtain ⟨fuel, rfl⟩ := Nat.exists_eq_succ_of_ne_zero (by omega : fuel ≠ 0)
    simp [insertSortedLoop, Nodes.sortedIndex]
  | cons x xs ih =>
    obtain ⟨fuel, rfl⟩ := Nat.exists_eq_succ_of_ne_zero (by omega : fuel ≠ 0)
    rw [List.length_cons] at hf
    have hloop : insertSortedLoop list e (fuel + 1) (headPtr (x :: xs) none) index =
        if Nodes.sortedCompare list.callbacks e x.2 = 1 then
          insertSortedLoop list e fuel (headPtr xs none) (index + 1)
        else if Nodes.sortedCompare list.callbacks e x.2 ≤ 0 then .ok index
        else .error .diverges := by
      rw [headPtr, insertSortedLoop, Heap.load_some hl.1, ok_bind]
      rfl
    rw [hloop, Nodes.sortedIndex, List.findIdx_cons]
    by_cases h1 : Nodes.sortedCompare list.callbacks e x.2 = 1
    · have hrec := ih hl.2 (by omega : xs.length < fuel) (index + 1)
      simp only [Nodes.sortedIndex, add_assoc, add_comm (1 : Int)] at hrec
      simpa [h1] using hrec
    · rw [if_neg h1]
      by_cases h0 : Nodes.sortedCompare list.callbacks e x.2 ≤ 0
      · simp [h0, h1]
      · refine .inr ⟨by simp [h0], ?_⟩
        obtain ⟨a, x⟩ := x
        cases x with
        | none => exact absurd rfl h1
        | some x =>
          refine ⟨x, ?_⟩
          simp only [Nodes.sortedCompare] at h0 h1
          omega

end SensorGateway
