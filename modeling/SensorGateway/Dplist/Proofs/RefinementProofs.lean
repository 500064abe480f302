import SensorGateway.Dplist.Proofs.UpdateProofs

/-!
# `dplist` refines a sequence

Every call keeps the heap a chain and acts on its nodes as the mathematical call does; by induction
this holds along every list of calls. The only way for a call not to return is the loop of
`dpl_insert_sorted` with a comparison callback that answers more than 1, against its contract.
-/

namespace SensorGateway

open PtrHeap DoublyLinked

variable {E B : Type} {list : Dplist E B} {xs : Nodes E} {m : Allocator (Node (Option E))}

theorem dplInsertAtIndex_at (m : Allocator (Node (Option E))) (hc : IsChain list xs) (e : Option E)
    {k : Nat} (hk : k ≤ xs.length) (copy : Bool) :
    ChainOf (dplInsertAtIndex m list e k copy) list
      (xs.insertIdx k (m.malloc list.heap, list.callbacks.stored e copy)) := by
  have h := dplInsertAtIndex_spec m hc e k copy
  rwa [seqInsertAtIndex, clampIndex, Int.toNat_natCast, Nat.min_eq_left hk] at h

theorem dplRemoveAtIndex_at (hc : IsChain list xs) {k : Nat} (hk : k < xs.length) (free : Bool) :
    ChainOf (dplRemoveAtIndex list k free) list (xs.eraseIdx k) := by
  have h := dplRemoveAtIndex_spec hc k free
  rwa [seqRemoveAtIndex_of_lt hk] at h

theorem dplInsertSorted_spec (m : Allocator (Node (Option E))) (hc : IsChain list xs) (e : Option E)
    (copy : Bool) :
    ChainOf (dplInsertSorted m list e copy) list (xs.insertIdx (xs.sortedIndex list.callbacks e)
        (m.malloc list.heap, list.callbacks.stored e copy)) ∨
      dplInsertSorted m list e copy = .error .diverges ∧
        ∃ x y, 1 < list.callbacks.elementCompare x y := by
  unfold dplInsertSorted
  split_ifs with hhead
  · obtain rfl := hc.head_eq_none_iff.mp hhead
    have hidx : Nodes.sortedIndex list.callbacks [] e = 0 := by cases e <;> rfl
    rw [hidx]
    exact .inl (dplInsertAtIndex_at m hc e (Nat.zero_le _) copy)
  · cases e with
    | none => exact .inl (dplInsertAtIndex_at m hc none (Nat.zero_le _) copy)
    | some e =>
      rcases insertSortedLoop_spec hc.links hc.length_lt_fuel e 0 with hloop | ⟨hloop, x, hx⟩
      · left
        rw [← hc.head, zero_add] at hloop
        simp only [hloop, ok_bind]
        exact dplInsertAtIndex_at m hc (some e) List.findIdx_le_length copy
      · right
        rw [← hc.head] at hloop
        simp only [hloop]
        exact ⟨rfl, e, x, hx⟩

theorem Nodes.indexOfReference_lt {r : Ptr} {k : Nat} (h : xs.indexOfReference r = some k) :
    k < xs.length :=
  (List.findIdx?_eq_some_iff_findIdx_eq.mp h).1

theorem Nodes.indexOfElement_lt {cb : Callbacks E B} {e : Option E} {k : Nat}
    (h : xs.indexOfElement cb e = some k) : k < xs.length :=
  (List.findIdx?_eq_some_iff_findIdx_eq.mp h).1

/-- A call returns what it should and leaves the chain of the mathematical call. -/
def Call.Returns (m : Allocator (Node (Option E))) (list : Dplist E B) (xs : Nodes E)
    (call : Call E) : Prop :=
  ∃ list', call.run m list = .ok (call.returned xs, list') ∧
    IsChain list' (call.onNodes list.callbacks (m.malloc list.heap) xs) ∧
    list'.callbacks = list.callbacks

theorem Call.insertAtReference_returns (m : Allocator (Node (Option E))) (hc : IsChain list xs)
    (e : Option E) (r : Ptr) (copy : Bool) :
    (Call.insertAtReference e r copy).Returns m list xs := by
  unfold Call.Returns
  cases r with
  | none =>
    have hnone : xs.indexOfReference none = none := by
      simp [Nodes.indexOfReference]
    refine ⟨list, by simp [Call.run, dplInsertAtReference, Call.returned], ?_, rfl⟩
    simpa [Call.onNodes, hnone] using hc
  | some r =>
    have hidx := dplGetIndexOfReference_spec hc (some r)
    rw [Call.onNodes, Call.run, dplInsertAtReference, if_neg (by simp), hidx, ok_bind]
    cases hk : xs.indexOfReference (some r) with
    | none => exact ⟨list, by simp [Call.returned], hc, rfl⟩
    | some k =>
      obtain ⟨list', hr, hc', hcb⟩ :=
        dplInsertAtIndex_at m hc e (Nodes.indexOfReference_lt hk).le copy
      refine ⟨list', ?_, hc', hcb⟩
      rw [foundIndex_some, zero_add, if_neg (by omega), hr]
      rfl

theorem Call.removeAtReference_returns (m : Allocator (Node (Option E))) (hc : IsChain list xs)
    (r : Ptr) (free : Bool) : (Call.removeAtReference r free : Call E).Returns m list xs := by
  rw [Call.Returns, Call.onNodes, Call.run, dplRemoveAtReference]
  split_ifs with hhead hr
  · obtain rfl := hc.head_eq_none_iff.mp hhead
    refine ⟨list, ?_, by simpa [Nodes.indexOfReference] using hc, rfl⟩
    cases r <;> rfl
  · subst hr
    have hnone : xs.indexOfReference none = none := by
      simp [Nodes.indexOfReference]
    refine ⟨list, ?_, by simpa [hnone] using hc, rfl⟩
    simp [Call.returned, hc.head_eq_none_iff.not.mp hhead]
  · have hret : (Call.removeAtReference r free : Call E).returned xs = .list := by
      cases r with
      | none => exact absurd rfl hr
      | some r => rfl
    rw [dplGetIndexOfReference_spec hc, ok_bind, hret]
    cases hk : xs.indexOfReference r with
    | none => exact ⟨list, by simp, hc, rfl⟩
    | some k =>
      obtain ⟨list', hr, hc', hcb⟩ := dplRemoveAtIndex_at hc (Nodes.indexOfReference_lt hk) free
      refine ⟨list', ?_, hc', hcb⟩
      rw [foundIndex_some, zero_add, if_neg (by omega), hr]
      rfl

theorem Call.removeElement_returns (m : Allocator (Node (Option E))) (hc : IsChain list xs)
    (e : Option E) (free : Bool) : (Call.removeElement e free).Returns m list xs := by
  rw [Call.Returns, Call.onNodes, Call.run, dplRemoveElement]
  split_ifs with hhead
  · obtain rfl := hc.head_eq_none_iff.mp hhead
    exact ⟨list, rfl, hc, rfl⟩
  · rw [dplGetIndexOfElement_spec hc, ok_bind]
    cases hk : xs.indexOfElement list.callbacks e with
    | none => exact ⟨list, by simp [Call.returned, Except.map], hc, rfl⟩
    | some k =>
      obtain ⟨list', hr, hc', hcb⟩ := dplRemoveAtIndex_at hc (Nodes.indexOfElement_lt hk) free
      refine ⟨list', ?_, hc', hcb⟩
      rw [foundIndex_some, zero_add, if_neg (by omega), hr]
      rfl

/-- A call on a chain returns, or it is a `dpl_insert_sorted` that never does. -/
theorem Call.run_spec (m : Allocator (Node (Option E))) (hc : IsChain list xs) (call : Call E) :
    call.Returns m list xs ∨
      call.run m list = .error .diverges ∧ ∃ x y, 1 < list.callbacks.elementCompare x y := by
  cases call with
  | insertAtIndex e i copy =>
    obtain ⟨list', hr, hc', hcb⟩ := dplInsertAtIndex_spec m hc e i copy
    exact .inl ⟨list', by rw [Call.run, hr]; rfl, hc', hcb⟩
  | insertAtReference e r copy => exact .inl (Call.insertAtReference_returns m hc e r copy)
  | insertSorted e copy =>
    rcases dplInsertSorted_spec m hc e copy with ⟨list', hr, hc', hcb⟩ | ⟨hr, hgt⟩
    · exact .inl ⟨list', by rw [Call.run, hr]; rfl, hc', hcb⟩
    · exact .inr ⟨by rw [Call.run, hr]; rfl, hgt⟩
  | removeAtIndex i free =>
    obtain ⟨list', hr, hc', hcb⟩ := dplRemoveAtIndex_spec hc i free
    exact .inl ⟨list', by rw [Call.run, hr]; rfl, hc', hcb⟩
  | removeAtReference r free => exact .inl (Call.removeAtReference_returns m hc r free)
  | removeElement e free => exact .inl (Call.removeElement_returns m hc e free)

/-- Every list of calls on a chain, by induction: the chain follows the sequence to the end, or one
    of the calls never returns. -/
theorem runCalls_spec (hc : IsChain list xs) {done : List (Call E)}
    (hrun : SeqRun list.callbacks done xs) (calls : List (Call E)) :
    (∃ list' xs', runCalls m list calls = .ok list' ∧
        SeqRun list.callbacks (done ++ calls) xs' ∧ IsChain list' xs') ∨
      runCalls m list calls = .error .diverges ∧ ∃ x y, 1 < list.callbacks.elementCompare x y := by
  induction calls generalizing list xs done with
  | nil => exact .inl ⟨list, xs, rfl, by simpa using hrun, hc⟩
  | cons call calls ih =>
    have hnew := hc.links.not_mem (m.malloc_unused list.heap)
    rcases Call.run_spec m hc call with ⟨list', hr, hc', hcb⟩ | ⟨hr, hgt⟩
    · have hrun' : SeqRun list.callbacks (done ++ [call])
          (call.onNodes list.callbacks (m.malloc list.heap) xs) := hrun.snoc hnew
      rw [← hcb] at hrun' hc'
      rw [runCalls, hr, ← hcb]
      simpa using ih hc' hrun'
    · exact .inr ⟨by rw [runCalls, hr]; rfl, hgt⟩

/-- From `dpl_create`, every list of calls with any indices and any references leaves a doubly
    linked chain without repetition whose nodes are those of the mathematical sequence, and
    `dpl_size` is their number. No call faults; the one that can fail to return is
    `dpl_insert_sorted` under a callback that answers more than 1. -/
theorem dplist_refines_sequence (m : Allocator (Node (Option E))) (cb : Callbacks E B)
    (calls : List (Call E)) :
    (∃ list xs, runCalls m (dplCreate cb) calls = .ok list ∧ SeqRun cb calls xs ∧
        IsChain list xs ∧ dplSize list = .ok (xs.length : Int)) ∨
      runCalls m (dplCreate cb) calls = .error .diverges ∧ ∃ x y, 1 < cb.elementCompare x y := by
  rcases runCalls_spec (m := m) (isChain_dplCreate cb) .nil calls with ⟨list, xs, hr, hs, hc⟩ | hd
  · exact .inl ⟨list, xs, hr, hs, hc, dplSize_spec hc⟩
  · exact .inr hd

/-- Insertions behind the end, in front and in order, and a removal far behind the end. -/
example :
    let cb : Callbacks Int Int := ⟨id, fun e => (e, []), fun x y => (x - y).sign, id⟩
    (runCalls Allocator.bump (dplCreate cb) [.insertAtIndex (some 7) 150 false,
      .insertAtIndex (some 5) (-1) false, .insertSorted (some 9) false,
      .removeAtIndex 150 false]).bind (dplGetElementAtIndex · 5) = .ok (some 7) := rfl

end SensorGateway
