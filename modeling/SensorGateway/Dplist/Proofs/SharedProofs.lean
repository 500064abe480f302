import SensorGateway.Dplist.Proofs.BoxedProofs

/-!
# Lists that share the memory of their elements

A call on one of the lists leaves the blocks of the others alone.
-/

namespace SensorGateway

open PtrHeap DoublyLinked

variable {E N : Type} {memory : Heap N} {lists : List (Dplist E Nat × List (Entry E N))}
  {list list' : Dplist E Nat} {entries : List (Entry E N)} {k : Nat}

theorem exists_set_split {α : Type} {xs : List α} {x : α} (hk : xs[k]? = some x) :
    ∃ ys zs, xs = ys ++ x :: zs ∧ ∀ x', xs.set k x' = ys ++ x' :: zs := by
  obtain ⟨hlt, hget⟩ := List.getElem?_eq_some_iff.mp hk
  obtain ⟨ys, y, zs, rfl, rfl⟩ := exists_split_at hlt
  obtain rfl : y = x := by simpa using hget
  exact ⟨ys, zs, rfl, fun x' => by simp⟩

theorem Boxed.cells_of_mem_listBlocks (h : Boxed list memory entries) {b : Nat}
    (hb : b ∈ listBlocks (list, entries)) : memory.cells b ≠ none := by
  obtain ⟨x, hx, rfl⟩ := List.mem_map.mp hb
  rw [h.cells x hx]
  simp

namespace Shared

theorem empty : Shared (Heap.empty : Heap N) ([] : List (Dplist E Nat × List (Entry E N))) where
  boxed := fun _ h => nomatch h
  distinct := List.nodup_nil
  only := fun _ h => absurd rfl h

theorem cells (h : Shared memory lists) {b : Nat} (hb : b ∈ lists.flatMap listBlocks) :
    memory.cells b ≠ none := by
  obtain ⟨x, hx, hb⟩ := List.mem_flatMap.mp hb
  exact (h.boxed x hx).cells_of_mem_listBlocks hb

/-- The other lists stay as they are when their blocks do. -/
theorem boxed_of_frame {ys zs : List (Dplist E Nat × List (Entry E N))} {memory' : Heap N}
    {entries' : List (Entry E N)} (h : Shared memory (ys ++ (list, entries) :: zs))
    (hboxed : Boxed list' memory' entries')
    (hframe : ∀ b ∈ (ys ++ zs).flatMap listBlocks, memory'.cells b = memory.cells b) :
    ∀ x ∈ ys ++ (list', entries') :: zs, Boxed x.1 memory' x.2 := by
  have hother : ∀ x ∈ ys ++ zs, Boxed x.1 memory' x.2 := by
    intro x hx
    have hold : x ∈ ys ++ (list, entries) :: zs := by
      rcases List.mem_append.mp hx with hx | hx
      · exact List.mem_append_left _ hx
      · exact List.mem_append_right _ (List.mem_cons_of_mem _ hx)
    refine (h.boxed x hold).frame fun y hy => hframe _ ?_
    exact List.mem_flatMap.mpr ⟨x, hx, List.mem_map_of_mem hy⟩
  intro x hx
  rcases List.mem_append.mp hx with hx | hx
  · exact hother x (List.mem_append_left _ hx)
  · rcases List.mem_cons.mp hx with rfl | hx
    · exact hboxed
    · exact hother x (List.mem_append_right _ hx)

/-- A list that has just been created. -/
theorem add (h : Shared memory lists) (cb : Callbacks E Nat) (i : Int) :
    Shared memory (seqInsertAtIndex lists i (dplCreate cb, [])) := by
  have hperm : (seqInsertAtIndex lists i (dplCreate cb, [])).flatMap listBlocks |>.Perm
      (lists.flatMap listBlocks) := (seqInsertAtIndex_perm lists i _).flatMap_right listBlocks
  refine ⟨?_, hperm.nodup_iff.mpr h.distinct, fun b hb => hperm.mem_iff.mpr (h.only b hb)⟩
  intro x hx
  rcases mem_seqInsertAtIndex.mp hx with rfl | hx
  · exact boxed_dplCreate cb memory
  · exact h.boxed x hx

/-- A new element in one of the lists, whose block is not in use. -/
theorem insert (h : Shared memory lists) (hk : lists[k]? = some (list, entries))
    (m : Allocator (Node (Option E))) {element : Option E} {copy : Bool} {e : E}
    (hstored : list.callbacks.stored element copy = some e)
    (hnew : memory.cells (list.callbacks.block e) = none) (i : Int) (v : N) :
    ∃ list', dplInsertAtIndex m list element i copy = .ok list' ∧ list'.callbacks = list.callbacks ∧
      Shared (memory.write (list.callbacks.block e) v)
        (lists.set k (list', seqInsertAtIndex entries i ⟨m.malloc list.heap, e, v⟩)) := by
  have hboxed := h.boxed _ (List.mem_of_getElem? hk)
  obtain ⟨list', hr, hcb, hboxed'⟩ := hboxed.insert m hstored hnew i v
  refine ⟨list', hr, hcb, ?_⟩
  obtain ⟨ys, zs, rfl, hset⟩ := exists_set_split hk
  rw [hset]
  have hperm : ((ys ++ (list', seqInsertAtIndex entries i ⟨m.malloc list.heap, e, v⟩) :: zs).flatMap
      listBlocks).Perm (list.callbacks.block e ::
        (ys ++ (list, entries) :: zs).flatMap listBlocks) := by
    have hone : (listBlocks (list', seqInsertAtIndex entries i ⟨m.malloc list.heap, e, v⟩)).Perm
        (list.callbacks.block e :: listBlocks (list, entries)) := by
      rw [listBlocks, hcb]
      exact (seqInsertAtIndex_perm entries i _).map _
    rw [List.flatMap_append, List.flatMap_append, List.flatMap_cons, List.flatMap_cons]
    exact ((hone.append_right _).append_left _).trans List.perm_middle
  have hfresh : list.callbacks.block e ∉ (ys ++ (list, entries) :: zs).flatMap listBlocks :=
    fun hmem => h.cells hmem hnew
  refine ⟨h.boxed_of_frame hboxed' ?_,
    hperm.nodup_iff.mpr (List.nodup_cons.mpr ⟨hfresh, h.distinct⟩), ?_⟩
  · intro b hb
    apply Heap.write_cells_of_ne
    rintro rfl
    apply hfresh
    simp only [List.flatMap_append, List.flatMap_cons, List.mem_append] at hb ⊢
    tauto
  · intro b hb
    rw [hperm.mem_iff, List.mem_cons]
    exact ((Heap.write_ne_none_iff b).mp hb).imp id (h.only b)

/-- The element of a node of one of the lists is freed with the node. -/
theorem remove (h : Shared memory lists) (hk : lists[k]? = some (list, entries)) {j : Nat}
    {x : Entry E N} (hj : entries[j]? = some x) :
    ∃ list', removeBoxed list memory j =
      .ok (list', memory.erase (list.callbacks.block x.element)) ∧
      list'.callbacks = list.callbacks ∧
      Shared (memory.erase (list.callbacks.block x.element))
        (lists.set k (list', entries.eraseIdx j)) := by
  obtain ⟨list', hr, hcb, hboxed'⟩ := (h.boxed _ (List.mem_of_getElem? hk)).remove hj
  refine ⟨list', hr, hcb, ?_⟩
  obtain ⟨ys, zs, rfl, hset⟩ := exists_set_split hk
  rw [hset]
  have hdistinct := h.distinct
  rw [List.flatMap_append, List.flatMap_cons] at hdistinct
  have hblocks : listBlocks (list', entries.eraseIdx j) =
      (listBlocks (list, entries)).eraseIdx j := by
    rw [listBlocks, hcb, listBlocks, List.eraseIdx_map]
  have hblock : (listBlocks (list, entries))[j]? = some (list.callbacks.block x.element) := by
    rw [listBlocks, List.getElem?_map, hj]
    rfl
  have hmem := List.mem_of_getElem? hblock
  refine ⟨h.boxed_of_frame hboxed' ?_, ?_, ?_⟩
  · intro b hb
    apply Heap.erase_cells_of_ne
    rintro rfl
    obtain ⟨-, hright, hleft⟩ := List.nodup_append.mp hdistinct
    rw [List.flatMap_append] at hb
    rcases List.mem_append.mp hb with hb | hb
    · exact hleft _ hb _ (List.mem_append_left _ hmem) rfl
    · exact (List.nodup_append.mp hright).2.2 _ hmem _ hb rfl
  · rw [List.flatMap_append, List.flatMap_cons, hblocks]
    exact hdistinct.sublist
      (((List.eraseIdx_sublist _ _).append (List.Sublist.refl _)).append_left _)
  · intro b hb
    rw [Ne, Heap.erase_eq_none_iff, not_or] at hb
    have hold := h.only b hb.2
    rw [List.flatMap_append, List.flatMap_cons, hblocks]
    rw [List.flatMap_append, List.flatMap_cons] at hold
    rcases List.mem_append.mp hold with hold | hold
    · exact List.mem_append_left _ hold
    · refine List.mem_append_right _ ?_
      rcases List.mem_append.mp hold with hold | hold
      · -- another block of the same list
        obtain ⟨i, hi⟩ := List.mem_iff_getElem?.mp hold
        refine List.mem_append_left _ (List.mem_eraseIdx_iff_getElem?.mpr ⟨i, ?_, hi⟩)
        rintro rfl
        exact hb.1 (Option.some.inj (hi.symm.trans hblock))
      · exact List.mem_append_right _ hold

/-- `dpl_free` of the first list and the release of its elements. -/
theorem free (h : Shared memory ((list, entries) :: lists)) :
    ∃ released memory', dplFree list false = .ok released ∧ released.Nodup ∧ .list ∈ released ∧
      (∀ a, list.heap.cells a ≠ none → .node a ∈ released) ∧
      freeBlocks memory (elementBlocks released) = .ok memory' ∧ Shared memory' lists := by
  obtain ⟨released, hfree, hnodup, hblocks, hlist, hnodes⟩ :=
    (h.boxed _ List.mem_cons_self).free
  have hdistinct := h.distinct
  rw [List.flatMap_cons, List.nodup_append] at hdistinct
  obtain ⟨hown, hrest, hapart⟩ := hdistinct
  obtain ⟨memory', hfreed, hgone, hframe⟩ := freeBlocks_spec hown fun b hb =>
    h.cells (List.mem_flatMap.mpr ⟨_, List.mem_cons_self, hb⟩)
  refine ⟨released, memory', hfree, hnodup, hlist, hnodes, by rw [hblocks]; exact hfreed,
    ?_, hrest, ?_⟩
  · intro x hx
    refine (h.boxed x (List.mem_cons_of_mem _ hx)).frame fun y hy => hframe _ fun hmem => ?_
    exact hapart _ hmem _ (List.mem_flatMap.mpr ⟨x, hx, List.mem_map_of_mem hy⟩) rfl
  · intro b hb
    have hnotMem : b ∉ listBlocks (list, entries) := fun hmem => hb (hgone b hmem)
    rw [hframe b hnotMem] at hb
    have hmem := h.only b hb
    rw [List.flatMap_cons] at hmem
    exact (List.mem_append.mp hmem).resolve_left hnotMem

end Shared

end SensorGateway
