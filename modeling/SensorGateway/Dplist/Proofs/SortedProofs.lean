import Mathlib.Data.List.Sort
import Mathlib.Tactic
import SensorGateway.Dplist.Proofs.ElementProofs

/-!
# Lists in ascending order

`dpl_insert_sorted` is the ordered insertion of the order that the comparison callback describes,
with NULL below every element.
-/

namespace SensorGateway

open PtrHeap DoublyLinked

/-! ## Ordered insertion at the first position -/

theorem insertIdx_findIdx_eq_orderedInsert {α : Type} (r : α → α → Prop) [DecidableRel r] (a : α)
    (l : List α) : l.insertIdx (l.findIdx fun b => decide (r a b)) a = l.orderedInsert r a := by
  induction l with
  | nil => rfl
  | cons b l ih =>
    by_cases h : r a b
    · rw [List.orderedInsert_cons_of_le _ _ h, List.findIdx_cons]
      simp [h]
    · rw [List.orderedInsert_of_not_le _ _ h, ← ih, List.findIdx_cons]
      simp [h]

/-! ## The order of a comparison callback -/

variable {E B : Type}

/-- The callback answers -1, 0 or 1 and describes a total preorder. -/
structure ComparesPreorder (compare : E → E → Int) : Prop where
  range : ∀ x y, compare x y = -1 ∨ compare x y = 0 ∨ compare x y = 1
  swap : ∀ x y, compare y x = -compare x y
  trans : ∀ x y z, compare x y ≤ 0 → compare y z ≤ 0 → compare x z ≤ 0

/-- The ascending order of elements, NULL smallest. -/
def elementLe (compare : E → E → Int) : Option E → Option E → Prop
  | none, _ => True
  | some _, none => False
  | some x, some y => compare x y ≤ 0

instance (compare : E → E → Int) : DecidableRel (elementLe compare)
  | none, _ => isTrue trivial
  | some _, none => isFalse id
  | some x, some y => inferInstanceAs (Decidable (compare x y ≤ 0))

/-- The list is in ascending order. -/
def Ascending (compare : E → E → Int) (xs : Nodes E) : Prop :=
  (xs.map Prod.snd).Pairwise (elementLe compare)

/-- `e` and `e'` stand at the same place of the order. -/
def SameRank (compare : E → E → Int) (e e' : Option E) : Prop :=
  elementLe compare e e' ∧ elementLe compare e' e

variable {compare : E → E → Int}

theorem ComparesPreorder.total (hp : ComparesPreorder compare) : Std.Total (elementLe compare) where
  total := by
    intro x y
    cases x with
    | none => exact .inl trivial
    | some x =>
      cases y with
      | none => exact .inr trivial
      | some y =>
        show compare x y ≤ 0 ∨ compare y x ≤ 0
        have hswap := hp.swap x y
        omega

theorem ComparesPreorder.isTrans (hp : ComparesPreorder compare) :
    IsTrans _ (elementLe compare) where
  trans := by
    intro x y z hxy hyz
    cases x with
    | none => trivial
    | some x =>
      cases y with
      | none => exact hxy.elim
      | some y =>
        cases z with
        | none => exact hyz.elim
        | some z => exact hp.trans x y z hxy hyz

theorem ComparesPreorder.le_one (hp : ComparesPreorder compare) (x y : E) : compare x y ≤ 1 := by
  have h := hp.range x y
  omega

theorem ComparesPreorder.sameRank_refl (hp : ComparesPreorder compare) (e : Option E) :
    SameRank compare e e := by
  have h : elementLe compare e e := (hp.total.total e e).elim id id
  exact ⟨h, h⟩

theorem SameRank.elementLe_iff (hp : ComparesPreorder compare) {e e' x : Option E}
    (h : SameRank compare e e') : elementLe compare e x ↔ elementLe compare e' x := by
  constructor
  · intro hx
    exact hp.isTrans.trans _ _ _ h.2 hx
  · intro hx
    exact hp.isTrans.trans _ _ _ h.1 hx

/-! ## The insertion -/

/-- The scan stops where the ordered insertion does. -/
theorem sortedIndex_eq_findIdx (cb : Callbacks E B) (hp : ComparesPreorder cb.elementCompare)
    (xs : Nodes E) (e : Option E) :
    xs.sortedIndex cb e =
      (xs.map Prod.snd).findIdx fun x => decide (elementLe cb.elementCompare e x) := by
  rw [List.findIdx_map]
  cases e with
  | none =>
    -- NULL goes in front of the first node, whatever it holds
    cases xs with
    | nil => rfl
    | cons x xs => rfl
  | some e =>
    show List.findIdx _ xs = List.findIdx _ xs
    congr 1
    funext x
    apply decide_eq_decide.mpr
    show Nodes.sortedCompare cb e x.2 ≠ 1 ↔ elementLe cb.elementCompare (some e) x.2
    cases x.2 with
    | none => simp [Nodes.sortedCompare, elementLe]
    | some y =>
      have hrange := hp.range e y
      show cb.elementCompare e y ≠ 1 ↔ cb.elementCompare e y ≤ 0
      omega

theorem map_insertIdx_sortedIndex (cb : Callbacks E B) (hp : ComparesPreorder cb.elementCompare)
    (xs : Nodes E) (a : Nat) {e stored : Option E} (h : SameRank cb.elementCompare stored e) :
    (xs.insertIdx (xs.sortedIndex cb e) (a, stored)).map Prod.snd =
      (xs.map Prod.snd).orderedInsert (elementLe cb.elementCompare) stored := by
  rw [List.map_insertIdx, sortedIndex_eq_findIdx cb hp, ← insertIdx_findIdx_eq_orderedInsert]
  congr 2
  funext x
  exact decide_eq_decide.mpr (h.elementLe_iff hp).symm

theorem Ascending.insertSorted {cb : Callbacks E B} (hp : ComparesPreorder cb.elementCompare)
    {xs : Nodes E} (hasc : Ascending cb.elementCompare xs) (a : Nat) {e stored : Option E}
    (h : SameRank cb.elementCompare stored e) :
    Ascending cb.elementCompare (xs.insertIdx (xs.sortedIndex cb e) (a, stored)) := by
  unfold Ascending
  rw [map_insertIdx_sortedIndex cb hp xs a h]
  have := hp.total
  have := hp.isTrans
  exact List.Pairwise.orderedInsert stored _ hasc

theorem Ascending.eraseIdx {xs : Nodes E} (hasc : Ascending compare xs) (k : Nat) :
    Ascending compare (xs.eraseIdx k) := by
  unfold Ascending
  exact hasc.sublist ((List.eraseIdx_sublist xs k).map Prod.snd)

theorem ComparesPreorder.sameRank_stored {cb : Callbacks E B}
    (hp : ComparesPreorder cb.elementCompare) {e : Option E} {insertCopy : Bool}
    (h : insertCopy = true → SameRank cb.elementCompare (cb.elementCopy e) e) :
    SameRank cb.elementCompare (cb.stored e insertCopy) e := by
  unfold Callbacks.stored
  by_cases hcopy : insertCopy = true
  · rw [if_pos hcopy]
    exact h hcopy
  · rw [if_neg hcopy]
    exact hp.sameRank_refl e

/-! ## Runs of ordered insertions and removals -/

/-- The call is an ordered insertion, of an element whose copy ranks like the element itself, or a
    removal. -/
def Call.KeepsOrder (cb : Callbacks E B) : Call E → Prop
  | .insertSorted e insertCopy =>
    insertCopy = true → SameRank cb.elementCompare (cb.elementCopy e) e
  | .removeAtIndex _ _ => True
  | .removeAtReference _ _ => True
  | .removeElement _ _ => True
  | .insertAtIndex _ _ _ => False
  | .insertAtReference _ _ _ => False

theorem Ascending.onNodes {cb : Callbacks E B} (hp : ComparesPreorder cb.elementCompare)
    {xs : Nodes E} (hasc : Ascending cb.elementCompare xs) (a : Nat) {call : Call E}
    (hcall : call.KeepsOrder cb) : Ascending cb.elementCompare (call.onNodes cb a xs) := by
  cases call with
  | insertAtIndex e i c => exact hcall.elim
  | insertAtReference e r c => exact hcall.elim
  | insertSorted e c => exact hasc.insertSorted hp a (hp.sameRank_stored hcall)
  | removeAtIndex i f => exact hasc.eraseIdx _
  | removeAtReference r f =>
    rw [Call.onNodes]
    cases xs.indexOfReference r with
    | none => exact hasc
    | some k => exact hasc.eraseIdx k
  | removeElement e f =>
    rw [Call.onNodes]
    cases xs.indexOfElement cb e with
    | none => exact hasc
    | some k => exact hasc.eraseIdx k

theorem runCalls_ascending (m : Allocator (Node (Option E))) {cb : Callbacks E B}
    (hp : ComparesPreorder cb.elementCompare) {list : Dplist E B} {xs : Nodes E}
    (hcb : list.callbacks = cb) (hc : IsChain list xs) (hasc : Ascending cb.elementCompare xs)
    {calls : List (Call E)} (hcalls : ∀ call ∈ calls, call.KeepsOrder cb) :
    ∃ list' xs', runCalls m list calls = .ok list' ∧ IsChain list' xs' ∧
      Ascending cb.elementCompare xs' := by
  induction calls generalizing list xs with
  | nil => exact ⟨list, xs, rfl, hc, hasc⟩
  | cons call calls ih =>
    rcases Call.run_spec m hc call with ⟨list', hr, hc', hcb'⟩ | ⟨-, x, y, hgt⟩
    · rw [hcb] at hc' hcb'
      have hasc' := hasc.onNodes hp (m.malloc list.heap) (hcalls call (by simp))
      unfold runCalls
      rw [hr]
      exact ih hcb' hc' hasc' fun call' hmem => hcalls call' (by simp [hmem])
    · have hle := hp.le_one x y
      rw [hcb] at hgt
      omega

/-- An ordered insertion into a list in ascending order returns, keeps the order and adds the new
    element; and every list built from `dpl_create` by ordered insertions and removals is in
    ascending order. -/
theorem dpl_insert_sorted_ascending (m : Allocator (Node (Option E))) (cb : Callbacks E B)
    (hp : ComparesPreorder cb.elementCompare) :
    (∀ (list : Dplist E B) (xs : Nodes E) (element : Option E) (insertCopy : Bool),
        list.callbacks = cb → IsChain list xs → Ascending cb.elementCompare xs →
        (insertCopy = true → SameRank cb.elementCompare (cb.elementCopy element) element) →
        ∃ list' xs', dplInsertSorted m list element insertCopy = .ok list' ∧ IsChain list' xs' ∧
          Ascending cb.elementCompare xs' ∧
          (xs'.map Prod.snd).Perm (cb.stored element insertCopy :: xs.map Prod.snd)) ∧
      ∀ calls : List (Call E), (∀ call ∈ calls, call.KeepsOrder cb) →
        ∃ list xs, runCalls m (dplCreate cb) calls = .ok list ∧ IsChain list xs ∧
          Ascending cb.elementCompare xs := by
  constructor
  · intro list xs element insertCopy hcb hc hasc hcopy
    have hrank := hp.sameRank_stored hcopy
    rcases dplInsertSorted_spec m hc element insertCopy with ⟨list', hr, hc', -⟩ | ⟨-, x, y, hgt⟩
    · rw [hcb] at hc'
      refine ⟨list', _, hr, hc', hasc.insertSorted hp _ hrank, ?_⟩
      rw [map_insertIdx_sortedIndex cb hp xs _ hrank]
      exact List.perm_orderedInsert _ _ _
    · have hle := hp.le_one x y
      rw [hcb] at hgt
      omega
  · intro calls hcalls
    exact runCalls_ascending m hp rfl (isChain_dplCreate cb) List.Pairwise.nil hcalls

theorem comparesPreorder_sampleList : ComparesPreorder sampleList.callbacks.elementCompare where
  range x y := by
    show (x - y).sign = -1 ∨ (x - y).sign = 0 ∨ (x - y).sign = 1
    rcases Int.sign_trichotomy (x - y) with h | h | h <;> simp [h]
  swap x y := by
    show (y - x).sign = -(x - y).sign
    rw [← Int.sign_neg, neg_sub]
  trans x y z hxy hyz := by
    have hxy' : (x - y).sign ≤ 0 := hxy
    have hyz' : (y - z).sign ≤ 0 := hyz
    show (x - z).sign ≤ 0
    rw [Int.sign_nonpos_iff] at *
    omega

/-- 5 goes between the NULL and the two elements 7, and a run with a removal stays in order. -/
theorem dpl_insert_sorted_ascending_sample :
    (∃ list' xs', dplInsertSorted Allocator.bump sampleList (some 5) true = .ok list' ∧
        IsChain list' xs' ∧ Ascending sampleList.callbacks.elementCompare xs' ∧
        (xs'.map Prod.snd).Perm [some 5, none, some 7, some 7]) ∧
      ∃ list xs, runCalls Allocator.bump (dplCreate sampleList.callbacks)
          [.insertSorted (some 9) true, .insertSorted none false, .insertSorted (some 4) false,
            .removeAtIndex 1 false] = .ok list ∧
        IsChain list xs ∧ Ascending sampleList.callbacks.elementCompare xs := by
  have hp := comparesPreorder_sampleList
  obtain ⟨hinsert, hruns⟩ := dpl_insert_sorted_ascending Allocator.bump sampleList.callbacks hp
  refine ⟨?_, hruns _ ?_⟩
  · apply hinsert sampleList [(0, none), (1, some 7), (2, some 7)] (some 5) true rfl
      isChain_sampleList
    · unfold Ascending
      decide
    · intro _
      exact hp.sameRank_refl _
  · intro call hmem
    simp only [List.mem_cons, List.not_mem_nil, or_false] at hmem
    rcases hmem with rfl | rfl | rfl | rfl
    · intro _
      exact hp.sameRank_refl _
    · intro hcopy
      exact absurd hcopy (by decide)
    · intro hcopy
      exact absurd hcopy (by decide)
    · trivial

end SensorGateway
