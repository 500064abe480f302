import SensorGateway.Dplist.Proofs.RefinementProofs

/-!
# Search and removal by element

The search by content, the walk to an index and the removal at an index all reach the first node
whose element matches.
-/

namespace SensorGateway

open PtrHeap DoublyLinked

variable {E B : Type} {list : Dplist E B} {xs : Nodes E} {element : Option E}

/-- `x` is the first node that matches, at position `k`: NULL matches NULL only, and other elements
    match when the callback answers 0. -/
structure FirstMatch (cb : Callbacks E B) (element : Option E) (xs : Nodes E) (k : Nat)
    (x : Nat × Option E) : Prop where
  getElem? : xs[k]? = some x
  isMatch : Nodes.elementMatches cb element x.2 = true
  first : ∀ j < k, ∀ y, xs[j]? = some y → Nodes.elementMatches cb element y.2 = false

theorem Nodes.indexOfElement_eq_none {cb : Callbacks E B} :
    xs.indexOfElement cb element = none ↔
      ∀ x ∈ xs, Nodes.elementMatches cb element x.2 = false := by
  unfold Nodes.indexOfElement
  exact List.findIdx?_eq_none_iff

theorem Nodes.indexOfElement_eq_some {cb : Callbacks E B} {k : Nat}
    (h : xs.indexOfElement cb element = some k) : ∃ x, FirstMatch cb element xs k x := by
  unfold Nodes.indexOfElement at h
  obtain ⟨hk, hmatch, hfirst⟩ := List.findIdx?_eq_some_iff_getElem.mp h
  refine ⟨xs[k], List.getElem?_eq_getElem hk, hmatch, ?_⟩
  intro j hj y hy
  obtain ⟨hlt, rfl⟩ := List.getElem?_eq_some_iff.mp hy
  simpa using hfirst j hj

/-- On a chain, when no element matches, the search answers -1 and NULL and the removal does
    nothing; otherwise all three reach the first node that matches, and the removal takes out
    exactly this node. -/
theorem dpl_element_first_match (hc : IsChain list xs) (element : Option E) (freeElement : Bool) :
    ((∀ x ∈ xs, Nodes.elementMatches list.callbacks element x.2 = false) ∧
        dplGetIndexOfElement list element = .ok (-1) ∧
        dplGetReferenceOfElement list element = .ok none ∧
        dplRemoveElement list element freeElement = .ok list) ∨
      ∃ k x list', FirstMatch list.callbacks element xs k x ∧
        dplGetIndexOfElement list element = .ok (k : Int) ∧
        dplGetReferenceOfElement list element = .ok (some x.1) ∧
        dplRemoveElement list element freeElement = .ok list' ∧ IsChain list' (xs.eraseIdx k) := by
  have hindex := dplGetIndexOfElement_spec hc element
  unfold dplGetReferenceOfElement dplRemoveElement
  cases hk : xs.indexOfElement list.callbacks element with
  | none =>
    left
    rw [hk, foundIndex_none] at hindex
    rw [hindex]
    refine ⟨Nodes.indexOfElement_eq_none.mp hk, rfl, ?_, ?_⟩
    · by_cases hhead : list.head = none
      · rw [if_pos hhead]
      · rw [if_neg hhead]
        simp
    · by_cases hhead : list.head = none
      · rw [if_pos hhead]
      · rw [if_neg hhead]
        simp
  | some k =>
    right
    have hlt := Nodes.indexOfElement_lt hk
    have hhead : list.head ≠ none := by
      intro hnone
      rw [hc.head_eq_none_iff.mp hnone] at hlt
      exact Nat.not_lt_zero k hlt
    have hfound : (k : Int) ≠ -1 := by omega
    rw [hk, foundIndex_some, zero_add] at hindex
    obtain ⟨x, hx⟩ := Nodes.indexOfElement_eq_some hk
    obtain ⟨list', hr, hc', -⟩ := dplRemoveAtIndex_at hc hlt freeElement
    refine ⟨k, x, list', hx, hindex, ?_, ?_, hc'⟩
    · have hclamp : clampIndex k (xs.length - 1) = k := by
        unfold clampIndex
        omega
      rw [if_neg hhead, hindex, ok_bind, if_neg hfound, dplGetReferenceAtIndex_spec hc, hclamp,
        hx.getElem?]
      rfl
    · rw [if_neg hhead, hindex, ok_bind, if_neg hfound]
      exact hr

/-- Three nodes with the elements NULL, 7 and 7. -/
def sampleList : Dplist Int Int where
  head := some 0
  callbacks := ⟨id, fun e => (e, []), fun x y => (x - y).sign, id⟩
  heap := ((Heap.empty.write 0 ⟨none, some 1, none⟩).write 1 ⟨some 0, some 2, some 7⟩).write 2
    ⟨some 1, none, some 7⟩
  released := []

theorem isChain_sampleList : IsChain sampleList [(0, none), (1, some 7), (2, some 7)] where
  nodup := by decide
  head := rfl
  links := ⟨rfl, rfl, rfl, trivial⟩

/-- The second node goes, the first one is passed over. -/
theorem dpl_element_first_match_sample :
    dplGetIndexOfElement sampleList (some 7) = .ok 1 ∧
      dplGetReferenceOfElement sampleList (some 7) = .ok (some 1) ∧
      ∃ list', dplRemoveElement sampleList (some 7) false = .ok list' ∧
        IsChain list' [(0, none), (2, some 7)] := by
  rcases dpl_element_first_match isChain_sampleList (some 7) false with
    ⟨hnone, -⟩ | ⟨k, x, list', hfirst, hindex, -, hremove, hchain⟩
  · exact absurd (hnone (1, some 7) (by simp)) (by decide)
  · obtain rfl : k = 1 := Int.ofNat.inj (Except.ok.inj (hindex.symm.trans rfl))
    exact ⟨rfl, rfl, list', hremove, hchain⟩

end SensorGateway
