import SensorGateway.Dplist.Boxed
import SensorGateway.Dplist.Proofs.ReleaseProofs

/-!
# The calls on lists of pointers to blocks

A call does to the entries what it does to the sequence of nodes, and to the memory of the elements
only what the entries say.
-/

namespace SensorGateway

open PtrHeap DoublyLinked

/-! ## Insertions into sequences -/

section Sequences

variable {α β : Type}

theorem clampIndex_le (i : Int) (n : Nat) : clampIndex i n ≤ n := Nat.min_le_right _ _

theorem mem_seqInsertAtIndex {xs : List α} {i : Int} {x y : α} :
    y ∈ seqInsertAtIndex xs i x ↔ y = x ∨ y ∈ xs :=
  List.mem_insertIdx (clampIndex_le i xs.length)

theorem seqInsertAtIndex_perm (xs : List α) (i : Int) (x : α) :
    (seqInsertAtIndex xs i x).Perm (x :: xs) :=
  List.perm_insertIdx x xs (clampIndex_le i xs.length)

theorem map_seqInsertAtIndex (f : α → β) (xs : List α) (i : Int) (x : α) :
    (seqInsertAtIndex xs i x).map f = seqInsertAtIndex (xs.map f) i (f x) := by
  rw [seqInsertAtIndex, List.map_insertIdx, seqInsertAtIndex, List.length_map]

end Sequences

/-! ## Which nodes are allocated -/

section Nodes

variable {E B : Type} {list list' : Dplist E B}

/-- An insertion allocates its node, and releases nothing. -/
theorem dplInsertAtIndex_allocates {m : Allocator (Node (Option E))} {e : Option E} {i : Int}
    {copy : Bool} (hr : dplInsertAtIndex m list e i copy = .ok list') :
    ∀ a, list'.heap.cells a ≠ none ↔ a = m.malloc list.heap ∨ list.heap.cells a ≠ none := by
  have hwrite : ∀ (n : Node (Option E)) a, (list.heap.write (m.malloc list.heap) n).cells a ≠ none ↔
      a = m.malloc list.heap ∨ list.heap.cells a ≠ none := fun n a => Heap.write_ne_none_iff a
  intro a
  unfold dplInsertAtIndex at hr
  generalize (if copy then list.callbacks.elementCopy e else e) = stored at hr
  split_ifs at hr with hempty hfront
  · obtain ⟨h₁, hm₁, hr⟩ := bind_eq_ok hr
    obtain ⟨h₂, hm₂, hr⟩ := bind_eq_ok hr
    obtain rfl := Except.ok.inj hr
    rw [Ne, Heap.modify_eq_none_iff hm₂, Heap.modify_eq_none_iff hm₁]
    exact hwrite _ a
  · obtain ⟨h₁, hm₁, hr⟩ := bind_eq_ok hr
    obtain ⟨h₂, hm₂, hr⟩ := bind_eq_ok hr
    obtain ⟨h₃, hm₃, hr⟩ := bind_eq_ok hr
    obtain rfl := Except.ok.inj hr
    rw [Ne, Heap.modify_eq_none_iff hm₃, Heap.modify_eq_none_iff hm₂, Heap.modify_eq_none_iff hm₁]
    exact hwrite _ a
  · obtain ⟨refAtIndex, -, hr⟩ := bind_eq_ok hr
    obtain ⟨-, -, hr⟩ := bind_eq_ok hr
    obtain ⟨size, -, hr⟩ := bind_eq_ok hr
    obtain ⟨ref, -, hr⟩ := bind_eq_ok hr
    split_ifs at hr with hinside
    · obtain ⟨h₁, hm₁, hr⟩ := bind_eq_ok hr
      obtain ⟨h₂, hm₂, hr⟩ := bind_eq_ok hr
      obtain ⟨h₃, hm₃, hr⟩ := bind_eq_ok hr
      obtain ⟨h₄, hm₄, hr⟩ := bind_eq_ok hr
      obtain rfl := Except.ok.inj hr
      rw [Ne, Heap.modify_eq_none_iff hm₄, Heap.modify_eq_none_iff hm₃, Heap.modify_eq_none_iff hm₂,
        Heap.modify_eq_none_iff hm₁]
      exact hwrite _ a
    · obtain ⟨-, -, hr⟩ := bind_eq_ok hr
      obtain ⟨h₁, hm₁, hr⟩ := bind_eq_ok hr
      obtain ⟨h₂, hm₂, hr⟩ := bind_eq_ok hr
      obtain ⟨h₃, hm₃, hr⟩ := bind_eq_ok hr
      obtain rfl := Except.ok.inj hr
      rw [Ne, Heap.modify_eq_none_iff hm₃, Heap.modify_eq_none_iff hm₂, Heap.modify_eq_none_iff hm₁]
      exact hwrite _ a

end Nodes

variable {E N : Type} {list : Dplist E Nat} {memory memory' : Heap N} {entries : List (Entry E N)}
  {x : Entry E N} {k : Nat}

/-- An assignment to the value of an entry changes nothing else of it. -/
theorem map_set_value {α : Type} {f : Entry E N → α} (hk : entries[k]? = some x) (v : N)
    (hf : f { x with value := v } = f x) :
    (entries.set k { x with value := v }).map f = entries.map f := by
  obtain ⟨hlt, hget⟩ := List.getElem?_eq_some_iff.mp hk
  rw [List.map_set, hf, ← hget, ← List.map_set, List.set_getElem_self]

theorem boxed_dplCreate (cb : Callbacks E Nat) (memory : Heap N) :
    Boxed (dplCreate cb) memory [] where
  chain := isChain_dplCreate cb
  nodes := fun _ h => absurd rfl h
  distinct := List.nodup_nil
  cells := fun _ h => nomatch h

/-- A node goes, and its element is given to `free`, whether or not the memory holds the block. -/
theorem removeBoxed_of_chain {xs : Nodes E} {a : Nat} {e : E} (memory : Heap N)
    (hc : IsChain list xs) (hk : xs[k]? = some (a, some e)) :
    ∃ list', IsChain list' (xs.eraseIdx k) ∧ list'.callbacks = list.callbacks ∧
      (∀ b, list'.heap.cells b = none ↔ b = a ∨ list.heap.cells b = none) ∧
      removeBoxed list memory k = (do
        let memory' ← memory.free (some (list.callbacks.block e))
        .ok (list', memory')) := by
  obtain ⟨hlt, hget⟩ := List.getElem?_eq_some_iff.mp hk
  obtain ⟨list', hr, hc', hcb⟩ := dplRemoveAtIndex_at hc hlt false
  obtain ⟨ys, x, zs, rfl, hys⟩ := exists_split_at hlt
  obtain rfl : x = (a, some e) := by simpa [← hys] using hget
  obtain ⟨-, hnode, -⟩ := links_append.mp hc.links
  have hreference : dplGetReferenceAtIndex list k = .ok (some a) := by
    refine dplGetReferenceAtIndex_at ys hc k ?_
    simp [clampIndex, hys]
  obtain ⟨hreleased, hcells⟩ := dplRemoveAtIndex_released hr
    (by rw [Ne, hc.head_eq_none_iff]; simp) hreference hnode (by simp)
  refine ⟨list', hc', hcb, hcells, ?_⟩
  rw [removeBoxed, hr, ok_bind, hreleased, List.drop_left]
  show (freeBlocks memory [list.callbacks.block e] >>= _) = _
  rw [freeBlocks]
  cases memory.free (some (list.callbacks.block e)) <;> rfl

namespace Boxed

/-- Only the blocks of the entries matter. -/
theorem frame (h : Boxed list memory entries)
    (hcells : ∀ x ∈ entries, memory'.cells (list.callbacks.block x.element) =
      memory.cells (list.callbacks.block x.element)) : Boxed list memory' entries :=
  ⟨h.chain, h.nodes, h.distinct, fun x hx => (hcells x hx).trans (h.cells x hx)⟩

/-! ## Queries -/

theorem size (h : Boxed list memory entries) : dplSize list = .ok (entries.length : Int) := by
  rw [dplSize_spec h.chain, List.length_map]

theorem get (h : Boxed list memory entries) (hk : entries[k]? = some x) :
    dplGetElementAtIndex list k = .ok (some x.element) := by
  have hlt := (List.getElem?_eq_some_iff.mp hk).1
  rw [dplGetElementAtIndex_spec h.chain, seqGetElementAtIndex_of_lt (by simpa using hlt)]
  simp [List.getElem?_eq_some_iff.mp hk |>.2]

theorem load (h : Boxed list memory entries) (hk : entries[k]? = some x) :
    memory.load (list.pointer (some x.element)) = .ok x.value :=
  Heap.load_some (h.cells x (List.mem_of_getElem? hk))

/-! ## Changes -/

/-- Two entries with the same block are the same entry. -/
theorem block_ne (h : Boxed list memory entries) (hk : entries[k]? = some x) {j : Nat}
    {y : Entry E N} (hj : entries[j]? = some y) (hne : j ≠ k) :
    list.callbacks.block y.element ≠ list.callbacks.block x.element := by
  intro heq
  have hlt : j < (entries.map fun x => list.callbacks.block x.element).length := by
    rw [List.length_map]
    exact (List.getElem?_eq_some_iff.mp hj).1
  exact hne ((List.getElem?_inj hlt h.distinct).mp (by simp [hj, hk, heq]))

/-- An assignment to the value of an entry. -/
theorem write (h : Boxed list memory entries) (hk : entries[k]? = some x) (v : N) :
    Boxed list (memory.write (list.callbacks.block x.element) v)
      (entries.set k { x with value := v }) := by
  constructor
  · rw [map_set_value hk v rfl]
    exact h.chain
  · rw [map_set_value hk v rfl]
    exact h.nodes
  · rw [map_set_value hk v rfl]
    exact h.distinct
  · intro y hy
    obtain ⟨j, hj⟩ := List.mem_iff_getElem?.mp hy
    by_cases hjk : j = k
    · subst hjk
      rw [List.getElem?_set_self (List.getElem?_eq_some_iff.mp hk).1] at hj
      obtain rfl := Option.some.inj hj
      exact Heap.write_cells_self
    · rw [List.getElem?_set_ne (Ne.symm hjk)] at hj
      rw [Heap.write_cells_of_ne (h.block_ne hk hj hjk)]
      exact h.cells y (List.mem_of_getElem? hj)

/-- A new element, whose block is not in use. -/
theorem insert (h : Boxed list memory entries) (m : Allocator (Node (Option E)))
    {element : Option E} {copy : Bool} {e : E}
    (hstored : list.callbacks.stored element copy = some e)
    (hnew : memory.cells (list.callbacks.block e) = none) (i : Int) (v : N) :
    ∃ list', dplInsertAtIndex m list element i copy = .ok list' ∧ list'.callbacks = list.callbacks ∧
      Boxed list' (memory.write (list.callbacks.block e) v)
        (seqInsertAtIndex entries i ⟨m.malloc list.heap, e, v⟩) := by
  obtain ⟨list', hr, hc, hcb⟩ := dplInsertAtIndex_spec m h.chain element i copy
  refine ⟨list', hr, hcb, ?_, ?_, ?_, ?_⟩
  · rw [map_seqInsertAtIndex]
    rwa [hstored] at hc
  · intro a ha
    rw [map_seqInsertAtIndex, mem_seqInsertAtIndex]
    exact ((dplInsertAtIndex_allocates hr a).mp ha).imp id (h.nodes a)
  · rw [hcb, map_seqInsertAtIndex]
    refine (seqInsertAtIndex_perm _ _ _).nodup_iff.mpr (List.nodup_cons.mpr ⟨?_, h.distinct⟩)
    intro hmem
    obtain ⟨x, hx, hblock⟩ := List.mem_map.mp hmem
    have hcell := h.cells x hx
    rw [hblock, hnew] at hcell
    cases hcell
  · intro x hx
    rw [hcb]
    rcases mem_seqInsertAtIndex.mp hx with rfl | hx
    · exact Heap.write_cells_self
    · have hcell := h.cells x hx
      rw [Heap.write_cells_of_ne, hcell]
      intro heq
      rw [heq, hnew] at hcell
      cases hcell

/-- The element of the entry is freed with its node. -/
theorem remove (h : Boxed list memory entries) (hk : entries[k]? = some x) :
    ∃ list', removeBoxed list memory k =
      .ok (list', memory.erase (list.callbacks.block x.element)) ∧
      list'.callbacks = list.callbacks ∧
      Boxed list' (memory.erase (list.callbacks.block x.element)) (entries.eraseIdx k) := by
  have hnode : (entries.map fun x => (x.node, some x.element))[k]? =
      some (x.node, some x.element) := by
    rw [List.getElem?_map, hk]
    rfl
  obtain ⟨list', hc, hcb, hcells, hr⟩ := removeBoxed_of_chain memory h.chain hnode
  obtain ⟨ys, y, zs, hsplit, hys⟩ := exists_split_at (List.getElem?_eq_some_iff.mp hk).1
  obtain rfl : y = x := by
    rw [hsplit, ← hys] at hk
    simpa using hk
  have hfree : memory.free (some (list.callbacks.block y.element)) =
      .ok (memory.erase (list.callbacks.block y.element)) := by
    simp [Heap.free, h.cells y (List.mem_of_getElem? hk)]
  refine ⟨list', by rw [hr, hfree, ok_bind], hcb, ?_, ?_, ?_, ?_⟩
  · rw [← List.eraseIdx_map]
    exact hc
  · intro a ha
    rw [Ne, hcells, not_or] at ha
    have hmem := h.nodes a ha.2
    rw [hsplit, List.map_append, List.map_cons] at hmem
    rw [hsplit, ← hys, List.eraseIdx_append_of_length_le le_rfl, Nat.sub_self,
      List.eraseIdx_cons_zero,
      List.map_append]
    simp only [List.mem_append, List.mem_cons] at hmem ⊢
    tauto
  · rw [hcb]
    exact h.distinct.sublist ((List.eraseIdx_sublist _ _).map _)
  · intro z hz
    rw [hcb]
    obtain ⟨j, hjk, hj⟩ := List.mem_eraseIdx_iff_getElem?.mp hz
    rw [Heap.erase_cells_of_ne (h.block_ne hk hj hjk)]
    exact h.cells z (List.mem_of_getElem? hj)

/-! ## `dpl_free` -/

/-- With `free_element` false, `dpl_free` releases the block of every element, every node and the
    list, each of them once. -/
theorem free (h : Boxed list memory entries) :
    ∃ released, dplFree list false = .ok released ∧ released.Nodup ∧
      elementBlocks released = (entries.map fun x => list.callbacks.block x.element) ∧
      .list ∈ released ∧ ∀ a, list.heap.cells a ≠ none → .node a ∈ released := by
  have hfree : dplFree list false = .ok (entries.flatMap (fun x =>
      [.block (list.callbacks.block x.element), .node x.node]) ++ [.list]) := by
    rw [dplFree_spec h.chain, List.flatMap_map]
    rfl
  refine ⟨_, hfree, ?_, ?_, by simp, ?_⟩
  · have hnodes := h.chain.nodup
    have hdistinct := h.distinct
    rw [List.map_map] at hnodes
    rw [List.nodup_append]
    refine ⟨List.nodup_flatMap.mpr ⟨by simp, ?_⟩, List.nodup_singleton _, ?_⟩
    · refine ((List.pairwise_map.mp hnodes).and (List.pairwise_map.mp hdistinct)).imp ?_
      intro x y hxy
      simpa [List.Disjoint, Function.onFun, eq_comm, and_comm] using hxy
    · rintro release hmem b hb rfl
      obtain rfl := List.mem_singleton.mp hb
      obtain ⟨x, -, hx⟩ := List.mem_flatMap.mp hmem
      simp at hx
  · clear h hfree
    induction entries with
    | nil => rfl
    | cons x entries ih => exact congrArg (list.callbacks.block x.element :: ·) ih
  · intro a ha
    obtain ⟨x, hx, rfl⟩ := List.mem_map.mp (h.nodes a ha)
    refine List.mem_append_left _ (List.mem_flatMap.mpr ⟨x, hx, by simp⟩)

end Boxed

/-! ## A memory of its own -/

theorem owned_dplCreate (cb : Callbacks E Nat) : Owned (dplCreate cb) (Heap.empty : Heap N) [] where
  toBoxed := boxed_dplCreate cb _
  only := fun _ h => absurd rfl h

namespace Owned

theorem write (h : Owned list memory entries) (hk : entries[k]? = some x) (v : N) :
    Owned list (memory.write (list.callbacks.block x.element) v)
      (entries.set k { x with value := v }) where
  toBoxed := h.toBoxed.write hk v
  only := by
    intro b hb
    rw [map_set_value hk v rfl]
    rcases (Heap.write_ne_none_iff b).mp hb with rfl | hb
    · exact List.mem_map_of_mem (List.mem_of_getElem? hk)
    · exact h.only b hb

theorem insert (h : Owned list memory entries) (m : Allocator (Node (Option E)))
    {element : Option E} {copy : Bool} {e : E}
    (hstored : list.callbacks.stored element copy = some e)
    (hnew : memory.cells (list.callbacks.block e) = none) (i : Int) (v : N) :
    ∃ list', dplInsertAtIndex m list element i copy = .ok list' ∧ list'.callbacks = list.callbacks ∧
      Owned list' (memory.write (list.callbacks.block e) v)
        (seqInsertAtIndex entries i ⟨m.malloc list.heap, e, v⟩) := by
  obtain ⟨list', hr, hcb, hboxed⟩ := h.toBoxed.insert m hstored hnew i v
  refine ⟨list', hr, hcb, hboxed, ?_⟩
  intro b hb
  rw [hcb, map_seqInsertAtIndex, mem_seqInsertAtIndex]
  exact ((Heap.write_ne_none_iff b).mp hb).imp id (h.only b)

theorem remove (h : Owned list memory entries) (hk : entries[k]? = some x) :
    ∃ list', removeBoxed list memory k =
      .ok (list', memory.erase (list.callbacks.block x.element)) ∧
      list'.callbacks = list.callbacks ∧
      Owned list' (memory.erase (list.callbacks.block x.element)) (entries.eraseIdx k) := by
  obtain ⟨list', hr, hcb, hboxed⟩ := h.toBoxed.remove hk
  refine ⟨list', hr, hcb, hboxed, ?_⟩
  intro b hb
  rw [hcb]
  rw [Ne, Heap.erase_eq_none_iff, not_or] at hb
  obtain ⟨y, hy, rfl⟩ := List.mem_map.mp (h.only b hb.2)
  obtain ⟨j, hj⟩ := List.mem_iff_getElem?.mp hy
  have hjk : j ≠ k := by
    rintro rfl
    obtain rfl := Option.some.inj (hj.symm.trans hk)
    exact hb.1 rfl
  exact List.mem_map_of_mem (List.mem_eraseIdx_iff_getElem?.mpr ⟨j, hjk, hj⟩)

end Owned

/-- Every block of distinct allocated ones can be freed once. The other blocks stay. -/
theorem freeBlocks_spec {blocks : List Nat} (hnodup : blocks.Nodup)
    (hcells : ∀ b ∈ blocks, memory.cells b ≠ none) :
    ∃ memory', freeBlocks memory blocks = .ok memory' ∧ (∀ b ∈ blocks, memory'.cells b = none) ∧
      ∀ b, b ∉ blocks → memory'.cells b = memory.cells b := by
  induction blocks generalizing memory with
  | nil => exact ⟨memory, rfl, by simp, fun b _ => rfl⟩
  | cons b blocks ih =>
    obtain ⟨hnotMem, hnodup⟩ := List.nodup_cons.mp hnodup
    obtain ⟨v, hv⟩ := Option.ne_none_iff_exists'.mp (hcells b List.mem_cons_self)
    have hfree : memory.free (some b) = .ok (memory.erase b) := by simp [Heap.free, hv]
    have hleft : ∀ c ∈ blocks, (memory.erase b).cells c ≠ none := by
      intro c hc
      rw [Heap.erase_cells_of_ne (by rintro rfl; exact hnotMem hc)]
      exact hcells c (List.mem_cons_of_mem b hc)
    obtain ⟨memory', hrest, hgone, hframe⟩ := ih hnodup hleft
    refine ⟨memory', by rw [freeBlocks, hfree, ok_bind, hrest], ?_, ?_⟩
    · intro c hc
      rcases List.mem_cons.mp hc with rfl | hc
      · rw [hframe c hnotMem, Heap.erase_eq_none_iff]
        exact .inl rfl
      · exact hgone c hc
    · intro c hc
      rw [List.mem_cons, not_or] at hc
      rw [hframe c hc.2, Heap.erase_cells_of_ne hc.1]

end SensorGateway
