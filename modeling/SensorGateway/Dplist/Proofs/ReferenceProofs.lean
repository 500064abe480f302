import SensorGateway.Dplist.Proofs.RefinementProofs

/-!
# The index view and the reference view

A reference of a chain splits the chain in front of and behind its node. The index is the length of
the front, and the neighbours are the last node of the front and the first node behind.
-/

namespace SensorGateway

open PtrHeap DoublyLinked

variable {E B : Type} {list : Dplist E B} {xs ys zs : Nodes E} {a : Nat} {e : Option E}

/-! ## The node behind a reference -/

section ReadReference

variable {α : Type} (field : Node (Option E) → Option α) {h : Heap (Node (Option E))} {p : Ptr}

theorem readReferenceLoop_at (hl : Links h p (ys ++ (a, e) :: zs) none) (ha : a ∉ ys.map Prod.fst)
    {fuel : Nat} (hf : (ys ++ (a, e) :: zs).length < fuel) :
    readReferenceLoop h field (some a) fuel (headPtr (ys ++ (a, e) :: zs) none) =
      .ok (field ⟨lastPtr p ys, headPtr zs none, e⟩) := by
  induction ys generalizing p fuel with
  | nil =>
    obtain ⟨fuel, rfl⟩ := Nat.exists_eq_succ_of_ne_zero (by omega : fuel ≠ 0)
    rw [List.nil_append] at hl ⊢
    rw [headPtr, readReferenceLoop, Heap.load_some hl.1, ok_bind, if_pos rfl]
    rfl
  | cons y ys ih =>
    obtain ⟨fuel, rfl⟩ := Nat.exists_eq_succ_of_ne_zero (by omega : fuel ≠ 0)
    rw [List.cons_append] at hl hf ⊢
    rw [List.length_cons] at hf
    rw [List.map_cons, List.mem_cons, not_or] at ha
    have hy : some y.1 ≠ some a := fun heq => ha.1 (Option.some.inj heq).symm
    rw [headPtr, readReferenceLoop, Heap.load_some hl.1, ok_bind, if_neg hy]
    exact ih hl.2 ha.2 (by omega)

theorem readReferenceLoop_of_notMem (hl : Links h p xs none) {reference : Ptr}
    (hr : ∀ x ∈ xs, some x.1 ≠ reference) {fuel : Nat} (hf : xs.length < fuel) :
    readReferenceLoop h field reference fuel (headPtr xs none) = .ok none := by
  induction xs generalizing p fuel with
  | nil =>
    obtain ⟨fuel, rfl⟩ := Nat.exists_eq_succ_of_ne_zero (by omega : fuel ≠ 0)
    rfl
  | cons x xs ih =>
    obtain ⟨fuel, rfl⟩ := Nat.exists_eq_succ_of_ne_zero (by omega : fuel ≠ 0)
    rw [List.length_cons] at hf
    rw [headPtr, readReferenceLoop, Heap.load_some hl.1, ok_bind, if_neg (hr x List.mem_cons_self)]
    exact ih hl.2 (fun y hy => hr y (List.mem_cons_of_mem x hy)) (by omega)

/-- A reference occurs once, so nothing in front of it is the same node. -/
theorem IsChain.notMem_front (hc : IsChain list (ys ++ (a, e) :: zs)) : a ∉ ys.map Prod.fst := by
  have hnd := hc.nodup
  rw [List.map_append, List.map_cons] at hnd
  intro hmem
  exact (List.nodup_append.mp hnd).2.2 a hmem a List.mem_cons_self rfl

theorem readReference_at (hc : IsChain list (ys ++ (a, e) :: zs)) :
    readReference list field (some a) = .ok (field ⟨lastPtr none ys, headPtr zs none, e⟩) := by
  have hhead : list.head ≠ none := by simp [hc.head_eq_none_iff]
  rw [readReference, if_neg (by simp [hhead]), hc.head]
  exact readReferenceLoop_at field hc.links hc.notMem_front hc.length_lt_fuel

theorem readReference_of_notMem (hc : IsChain list xs) {reference : Ptr}
    (hr : ∀ x ∈ xs, some x.1 ≠ reference) : readReference list field reference = .ok none := by
  rw [readReference]
  split_ifs with hnone
  · rfl
  · rw [hc.head]
    exact readReferenceLoop_of_notMem field hc.links hr hc.length_lt_fuel

end ReadReference

theorem dplGetIndexOfReference_at (hc : IsChain list (ys ++ (a, e) :: zs)) :
    dplGetIndexOfReference list (some a) = .ok (ys.length : Int) := by
  have hidx : Nodes.indexOfReference (ys ++ (a, e) :: zs) (some a) = some ys.length := by
    have hys : List.findIdx? (fun x => decide (some x.1 = some a)) ys = none := by
      refine List.findIdx?_eq_none_iff.mpr fun y hy => ?_
      have hne : y.1 ≠ a := fun heq => hc.notMem_front (heq ▸ List.mem_map_of_mem hy)
      simpa using hne
    rw [Nodes.indexOfReference, List.findIdx?_append, hys, List.findIdx?_cons]
    simp
  rw [dplGetIndexOfReference_spec hc, hidx, foundIndex_some, zero_add]

/-- An index inside the list. -/
theorem dplGetReferenceAtIndex_length (hc : IsChain list (ys ++ (a, e) :: zs)) :
    dplGetReferenceAtIndex list (ys.length : Int) = .ok (some a) := by
  refine dplGetReferenceAtIndex_at ys hc _ ?_
  rw [clampIndex, Int.toNat_natCast, List.length_append, List.length_cons]
  omega

/-! ## The two views -/

/-- The queries about the node `r`, which stands at index `k` of a list of `n` nodes. -/
structure StandsAt (list : Dplist E B) (n : Nat) (r k : Nat) : Prop where
  index : dplGetIndexOfReference list (some r) = .ok (k : Int)
  reference : dplGetReferenceAtIndex list k = .ok (some r)
  element : dplGetElementAtReference list (some r) = dplGetElementAtIndex list k
  next : (k + 1 = n ∧ dplGetNextReference list (some r) = .ok none) ∨
    ∃ s, k + 1 < n ∧ dplGetNextReference list (some r) = .ok (some s) ∧
      dplGetIndexOfReference list (some s) = .ok ((k : Int) + 1) ∧
      dplGetPreviousReference list (some s) = .ok (some r)
  previous : (k = 0 ∧ dplGetPreviousReference list (some r) = .ok none) ∨
    ∃ s, 0 < k ∧ dplGetPreviousReference list (some r) = .ok (some s) ∧
      dplGetIndexOfReference list (some s) = .ok ((k : Int) - 1) ∧
      dplGetNextReference list (some s) = .ok (some r)

/-- The index view and the reference view of the nodes `xs` are inverse to each other. -/
structure ViewsAgree (list : Dplist E B) (xs : Nodes E) : Prop where
  size : dplSize list = .ok (xs.length : Int)
  atIndex : xs ≠ [] → ∀ i : Int, ∃ r, dplGetReferenceAtIndex list i = .ok (some r) ∧
    dplGetIndexOfReference list (some r) = .ok (clampIndex i (xs.length - 1) : Int) ∧
    dplGetElementAtReference list (some r) = dplGetElementAtIndex list i
  ofReference : ∀ r ∈ xs.map Prod.fst, ∃ k < xs.length, StandsAt list xs.length r k
  first : dplGetFirstReference list = xs[0]?.map Prod.fst
  last : dplGetLastReference list = .ok (xs[xs.length - 1]?.map Prod.fst)
  notIn : ∀ reference : Ptr, (∀ r ∈ xs.map Prod.fst, some r ≠ reference) →
    dplGetIndexOfReference list reference = .ok (-1) ∧
    dplGetElementAtReference list reference = .ok none ∧
    dplGetNextReference list reference = .ok none ∧
    dplGetPreviousReference list reference = .ok none

theorem IsChain.next_at (hc : IsChain list (ys ++ (a, e) :: zs)) :
    (zs = [] ∧ dplGetNextReference list (some a) = .ok none) ∨
      ∃ s, zs ≠ [] ∧ dplGetNextReference list (some a) = .ok (some s) ∧
        dplGetIndexOfReference list (some s) = .ok ((ys.length : Int) + 1) ∧
        dplGetPreviousReference list (some s) = .ok (some a) := by
  have hnext : dplGetNextReference list (some a) = .ok (headPtr zs none) :=
    readReference_at Node.next hc
  cases zs with
  | nil => exact .inl ⟨rfl, hnext⟩
  | cons c zs =>
    obtain ⟨c, ec⟩ := c
    have hc' : IsChain list ((ys ++ [(a, e)]) ++ (c, ec) :: zs) := by simpa using hc
    refine .inr ⟨c, by simp, hnext, ?_, ?_⟩
    · rw [dplGetIndexOfReference_at hc']
      simp
    · rw [dplGetPreviousReference, readReference_at Node.prev hc']
      simp [lastPtr_append]

theorem IsChain.previous_at (hc : IsChain list (ys ++ (a, e) :: zs)) :
    (ys = [] ∧ dplGetPreviousReference list (some a) = .ok none) ∨
      ∃ s, ys ≠ [] ∧ dplGetPreviousReference list (some a) = .ok (some s) ∧
        dplGetIndexOfReference list (some s) = .ok ((ys.length : Int) - 1) ∧
        dplGetNextReference list (some s) = .ok (some a) := by
  have hprev : dplGetPreviousReference list (some a) = .ok (lastPtr none ys) :=
    readReference_at Node.prev hc
  rcases List.eq_nil_or_concat ys with rfl | ⟨ys, ⟨b, eb⟩, rfl⟩
  · exact .inl ⟨rfl, hprev⟩
  · have hc' : IsChain list (ys ++ (b, eb) :: ((a, e) :: zs)) := by simpa using hc
    rw [List.concat_eq_append, lastPtr_append] at hprev
    refine .inr ⟨b, by simp, hprev, ?_, ?_⟩
    · rw [dplGetIndexOfReference_at hc']
      simp
    · exact readReference_at Node.next hc'

theorem IsChain.standsAt (hc : IsChain list (ys ++ (a, e) :: zs)) :
    StandsAt list (ys ++ (a, e) :: zs).length a ys.length where
  index := dplGetIndexOfReference_at hc
  reference := dplGetReferenceAtIndex_length hc
  element := by
    obtain ⟨-, ha, -⟩ := links_append.mp hc.links
    rw [dplGetElementAtReference, readReference_at Node.element hc, dplGetElementAtIndex,
      dplGetReferenceAtIndex_length hc, ok_bind, if_neg (by simp), Heap.load_some ha, ok_bind]
  next := by
    rw [List.length_append, List.length_cons]
    rcases hc.next_at with ⟨rfl, hnext⟩ | ⟨s, hzs, hnext⟩
    · exact .inl ⟨rfl, hnext⟩
    · have hpos := List.length_pos_of_ne_nil hzs
      exact .inr ⟨s, by omega, hnext⟩
  previous := by
    rcases hc.previous_at with ⟨rfl, hprev⟩ | ⟨s, hys, hprev⟩
    · exact .inl ⟨rfl, hprev⟩
    · exact .inr ⟨s, List.length_pos_of_ne_nil hys, hprev⟩

theorem dplGetElementAtIndex_clamp (hc : IsChain list xs) (i : Int) :
    dplGetElementAtIndex list (clampIndex i (xs.length - 1) : Int) =
      dplGetElementAtIndex list i := by
  have hclamp : clampIndex (clampIndex i (xs.length - 1) : Int) (xs.length - 1) =
      clampIndex i (xs.length - 1) := by
    unfold clampIndex
    omega
  rw [dplGetElementAtIndex_spec hc, dplGetElementAtIndex_spec hc, seqGetElementAtIndex,
    seqGetElementAtIndex, List.length_map, hclamp]

theorem IsChain.viewsAgree (hc : IsChain list xs) : ViewsAgree list xs where
  size := dplSize_spec hc
  atIndex := by
    intro hne i
    have hpos := List.length_pos_of_ne_nil hne
    have hk : clampIndex i (xs.length - 1) < xs.length := by
      unfold clampIndex
      omega
    obtain ⟨ys, ⟨r, e⟩, zs, hxs, hys⟩ := exists_split_at hk
    have hc' : IsChain list (ys ++ (r, e) :: zs) := hxs ▸ hc
    refine ⟨r, ?_, ?_, ?_⟩
    · exact dplGetReferenceAtIndex_at ys hc' i (by rw [← hxs, hys])
    · rw [dplGetIndexOfReference_at hc', hys]
    · rw [hc'.standsAt.element, hys, dplGetElementAtIndex_clamp hc]
  ofReference := by
    intro r hr
    obtain ⟨⟨r, e⟩, hmem, rfl⟩ := List.mem_map.mp hr
    obtain ⟨ys, zs, rfl⟩ := List.append_of_mem hmem
    exact ⟨ys.length, by simp, hc.standsAt⟩
  first := by
    rw [dplGetFirstReference, hc.head]
    cases xs <;> rfl
  last := by
    rw [dplGetLastReference]
    split_ifs with hhead
    · rw [hc.head_eq_none_iff.mp hhead]
      rfl
    · have hclamp : clampIndex ((xs.length : Int) - 1) (xs.length - 1) = xs.length - 1 := by
        unfold clampIndex
        omega
      rw [dplSize_spec hc, ok_bind, dplGetReferenceAtIndex_spec hc, hclamp]
  notIn := by
    intro reference hr
    have hxs : ∀ x ∈ xs, some x.1 ≠ reference := fun x hx => hr x.1 (List.mem_map_of_mem hx)
    refine ⟨?_, readReference_of_notMem _ hc hxs, readReference_of_notMem _ hc hxs,
      readReference_of_notMem _ hc hxs⟩
    have hidx : xs.indexOfReference reference = none :=
      List.findIdx?_eq_none_iff.mpr fun x hx => by simpa using hxs x hx
    rw [dplGetIndexOfReference_spec hc, hidx, foundIndex_none]

/-- After every list of calls from `dpl_create`, the two views of the nodes agree. -/
theorem dplist_views_agree (m : Allocator (Node (Option E))) (cb : Callbacks E B)
    (calls : List (Call E)) (list : Dplist E B)
    (hrun : runCalls m (dplCreate cb) calls = .ok list) :
    ∃ xs, IsChain list xs ∧ ViewsAgree list xs := by
  rcases dplist_refines_sequence m cb calls with ⟨list', xs, hr, -, hc, -⟩ | ⟨hr, -⟩
  · obtain rfl := Except.ok.inj (hrun.symm.trans hr)
    exact ⟨xs, hc, hc.viewsAgree⟩
  · rw [hr] at hrun
    cases hrun

/-- Two nodes are left of three: the second one was inserted in front of the first. -/
theorem dplist_views_agree_two : ∃ list xs,
    runCalls Allocator.bump
      (dplCreate (⟨id, fun e => (e, []), fun x y => (x - y).sign, id⟩ : Callbacks Int Int))
      [.insertAtIndex (some 7) 0 false, .insertAtIndex (some 5) 0 false,
        .insertAtIndex (some 9) 4 false, .removeAtReference (some 2) true] = .ok list ∧
      ViewsAgree list xs ∧ xs.length = 2 := by
  obtain ⟨xs, hc, hv⟩ := dplist_views_agree Allocator.bump
    (⟨id, fun e => (e, []), fun x y => (x - y).sign, id⟩ : Callbacks Int Int)
    [.insertAtIndex (some 7) 0 false, .insertAtIndex (some 5) 0 false,
      .insertAtIndex (some 9) 4 false, .removeAtReference (some 2) true] _ rfl
  have hsize := hv.size.symm.trans (rfl : _ = Except.ok (2 : Int))
  exact ⟨_, xs, rfl, hv, Int.ofNat.inj (Except.ok.inj hsize)⟩

end SensorGateway
