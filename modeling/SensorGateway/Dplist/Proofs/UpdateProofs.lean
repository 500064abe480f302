import SensorGateway.Dplist.Proofs.QueryProofs

/-!
# Insertion and removal on a chain

`dpl_insert_at_index` and `dpl_remove_at_index` choose among their branches by comparing the raw
index with the size. Each branch is followed on a chain that shows the nodes it patches; the clamped
position then says which branch is taken.
-/

namespace SensorGateway

open PtrHeap DoublyLinked

variable {E B : Type} {list : Dplist E B} {xs ys zs : Nodes E} {m : Allocator (Node (Option E))}
  {e eb ec : Option E} {a b c : Nat} {i : Int} {copy free : Bool}

/-! ## Insertion -/

/-- What an insertion leaves: the chain `xs`, under the same callbacks. -/
def ChainOf (r : Except Fault (Dplist E B)) (list : Dplist E B) (xs : Nodes E) : Prop :=
  ∃ list', r = .ok list' ∧ IsChain list' xs ∧ list'.callbacks = list.callbacks

theorem dplInsertAtIndex_empty (hc : IsChain list []) :
    ChainOf (dplInsertAtIndex m list e i copy) list
      [(m.malloc list.heap, list.callbacks.stored e copy)] := by
  have hnil : list.head = none := hc.head_eq_none_iff.mpr rfl
  rw [ChainOf, dplInsertAtIndex, if_pos hnil]
  simp only [Heap.modify, Heap.write_cells_self, ok_bind]
  refine ⟨_, rfl, ⟨by simp, rfl, ?_⟩, rfl⟩
  simp [Callbacks.stored]

theorem dplInsertAtIndex_front (hc : IsChain list ((b, eb) :: zs)) (hi : i ≤ 0) :
    ChainOf (dplInsertAtIndex m list e i copy) list
      ((m.malloc list.heap, list.callbacks.stored e copy) :: (b, eb) :: zs) := by
  have ha := m.malloc_unused list.heap
  have hnew := hc.links.not_mem ha
  have hb := hc.links.1
  have hhead : list.head = some b := hc.head
  rw [ChainOf, dplInsertAtIndex, if_neg (by simp [hhead]), if_pos hi]
  generalize m.malloc list.heap = a at *
  have hba : b ≠ a := fun heq => hnew (by simp [heq])
  simp only [Heap.modify, Heap.write_cells_self, Heap.write_cells_of_ne hba, hhead, hb, ok_bind]
  have hnd : (((a, list.callbacks.stored e copy) :: (b, eb) :: zs).map Prod.fst).Nodup :=
    List.nodup_cons.mpr ⟨hnew, hc.nodup⟩
  refine ⟨_, rfl, ⟨hnd, rfl, hc.links.link_front hnd ?_ ?_ fun d hda hdb => ?_⟩, rfl⟩
  · simp [hba.symm, Callbacks.stored]
  · simp
  · simp [hda, hdb]

theorem dplInsertAtIndex_between (hc : IsChain list (ys ++ (b, eb) :: (c, ec) :: zs))
    (hi : i = ys.length + 1) :
    ChainOf (dplInsertAtIndex m list e i copy) list
      (ys ++ (b, eb) :: (m.malloc list.heap, list.callbacks.stored e copy) :: (c, ec) :: zs) := by
  have ha := m.malloc_unused list.heap
  have hnew := hc.links.not_mem ha
  have hhead : list.head ≠ none := by simp [hc.head_eq_none_iff]
  have hw := hc.write_unused (n := ⟨none, none, list.callbacks.stored e copy⟩) ha
  have href := dplGetReferenceAtIndex_at (ys ++ [(b, eb)]) (by simpa using hw) i
    (by simp [clampIndex, hi])
  have hsize := dplSize_spec hw
  have hlt : i < ((ys ++ (b, eb) :: (c, ec) :: zs).length : Int) := by simp [hi]
  obtain ⟨-, hb, hcc, -⟩ := links_append.mp hc.links
  rw [ChainOf, dplInsertAtIndex, if_neg hhead, if_neg (by omega)]
  simp only [Callbacks.stored] at href hsize ⊢
  generalize m.malloc list.heap = a at *
  generalize (if copy then list.callbacks.elementCopy e else e) = stored at *
  have hnd : ((ys ++ (b, eb) :: (a, stored) :: (c, ec) :: zs).map Prod.fst).Nodup := by
    have := hc.nodup
    grind
  have hba : b ≠ a := by grind
  have hca : c ≠ a := by grind
  have hcb : c ≠ b := by grind
  simp only [href, hsize, hlt, if_pos, assertThat, ne_eq, reduceCtorEq, not_false_eq_true, ok_bind,
    Heap.load, Heap.modify, Heap.write_cells_self, Heap.write_cells_of_ne hca,
    Heap.write_cells_of_ne hba, Heap.write_cells_of_ne hcb, hb, hcc]
  refine ⟨_, rfl, ⟨hnd, ?_, hc.links.link_between hnd ?_ ?_ ?_ fun d hda hdb hdc => ?_⟩, rfl⟩
  · simpa using hc.head
  · simp [hba.symm, hca.symm]
  · simp [hcb.symm]
  · simp
  · simp [hda, hdb, hdc]

theorem dplInsertAtIndex_back (hc : IsChain list (ys ++ [(b, eb)])) (hi : (ys.length : Int) < i) :
    ChainOf (dplInsertAtIndex m list e i copy) list
      (ys ++ [(b, eb), (m.malloc list.heap, list.callbacks.stored e copy)]) := by
  have ha := m.malloc_unused list.heap
  have hnew := hc.links.not_mem ha
  have hhead : list.head ≠ none := by simp [hc.head_eq_none_iff]
  have hw := hc.write_unused (n := ⟨none, none, list.callbacks.stored e copy⟩) ha
  have href := dplGetReferenceAtIndex_at ys hw i (by simp [clampIndex]; omega)
  have hsize := dplSize_spec hw
  have hge : ¬ i < ((ys ++ [(b, eb)]).length : Int) := by simp; omega
  obtain ⟨-, hb, -⟩ := links_append.mp hc.links
  rw [ChainOf, dplInsertAtIndex, if_neg hhead, if_neg (by omega)]
  simp only [Callbacks.stored] at href hsize ⊢
  generalize m.malloc list.heap = a at *
  generalize (if copy then list.callbacks.elementCopy e else e) = stored at *
  have hnd : ((ys ++ [(b, eb), (a, stored)]).map Prod.fst).Nodup := by
    have := hc.nodup
    grind
  have hba : b ≠ a := by grind
  simp only [href, hsize, hge, if_pos, if_neg, headPtr_nil, assertThat, ne_eq, reduceCtorEq,
    not_false_eq_true, ok_bind, Heap.load, Heap.modify, Heap.write_cells_self,
    Heap.write_cells_of_ne hba, hb]
  refine ⟨_, rfl, ⟨hnd, ?_, hc.links.link_back hnd ?_ ?_ fun d hda hdb => ?_⟩, rfl⟩
  · simpa using hc.head
  · simp [hba.symm]
  · simp
  · simp [hda, hdb]

/-- A list shows the elements on both sides of an inner position. -/
theorem exists_split_between {α : Type} {l : List α} {k : Nat} (hk : k + 1 < l.length) :
    ∃ ys x y zs, l = ys ++ x :: y :: zs ∧ ys.length = k :=
  ⟨l.take k, l[k], l[k + 1], l.drop (k + 2), by simp, by simp; omega⟩

/-- Insertion puts the new node at the clamped position. -/
theorem dplInsertAtIndex_spec (m : Allocator (Node (Option E))) (hc : IsChain list xs)
    (e : Option E) (i : Int) (copy : Bool) :
    ChainOf (dplInsertAtIndex m list e i copy) list
      (seqInsertAtIndex xs i (m.malloc list.heap, list.callbacks.stored e copy)) := by
  rw [seqInsertAtIndex, clampIndex]
  rcases xs with - | ⟨⟨b, eb⟩, zs⟩
  · simpa using dplInsertAtIndex_empty hc
  · rcases le_or_gt i 0 with h0 | h0
    · rw [Int.toNat_eq_zero.mpr h0, Nat.zero_min, List.insertIdx_zero]
      exact dplInsertAtIndex_front hc h0
    · obtain ⟨k, rfl⟩ : ∃ k : Nat, i = k + 1 := ⟨i.toNat - 1, by omega⟩
      rcases lt_or_ge (k + 1) ((b, eb) :: zs).length with hlt | hge
      · obtain ⟨ys, ⟨d, ed⟩, ⟨c, ec⟩, ws, heq, rfl⟩ := exists_split_between hlt
        have hmin : min ((ys.length : Int) + 1).toNat ((b, eb) :: zs).length =
            (ys ++ [(d, ed)]).length := by
          simp at hlt ⊢
          omega
        rw [hmin, heq]
        rw [heq] at hc
        have hins := insertIdx_append_length (ys ++ [(d, ed)]) ((c, ec) :: ws)
          (m.malloc list.heap, list.callbacks.stored e copy)
        rw [List.append_assoc, List.append_assoc] at hins
        exact hins ▸ dplInsertAtIndex_between hc rfl
      · obtain ⟨ys, ⟨d, ed⟩, heq⟩ := (List.eq_nil_or_concat ((b, eb) :: zs)).resolve_left (by simp)
        have hmin : min ((k : Int) + 1).toNat ((b, eb) :: zs).length =
            (ys ++ [(d, ed)]).length := by
          rw [List.concat_eq_append] at heq
          rw [← heq]
          omega
        rw [List.concat_eq_append] at heq
        rw [hmin, heq, List.insertIdx_length_self, List.append_assoc]
        rw [heq] at hc hge
        refine dplInsertAtIndex_back hc ?_
        simp at hge
        omega

/-! ## Removal -/

theorem dplRemoveAtIndex_single (hc : IsChain list [(a, e)]) :
    ChainOf (dplRemoveAtIndex list i free) list [] := by
  have hhead : list.head = some a := hc.head
  have ha := hc.links.1
  have href := dplGetReferenceAtIndex_at [] hc i (by simp [clampIndex])
  have hsize := dplSize_spec hc
  rw [ChainOf, dplRemoveAtIndex, if_neg (by simp [hhead])]
  simp only [href, hsize, hhead, ok_bind, Heap.load, ha, headPtr_nil, if_pos, Heap.free]
  exact ⟨_, rfl, ⟨List.nodup_nil, rfl, links_nil⟩, rfl⟩

theorem dplRemoveAtIndex_front (hc : IsChain list ((a, e) :: (c, ec) :: zs)) (hi : i ≤ 0) :
    ChainOf (dplRemoveAtIndex list i free) list ((c, ec) :: zs) := by
  have hhead : list.head = some a := hc.head
  have ha := hc.links.1
  have hcc := hc.links.2.1
  have hca : c ≠ a := by
    have := hc.nodup
    grind
  have href := dplGetReferenceAtIndex_at [] hc i (by simp [clampIndex]; omega)
  have hsize := dplSize_spec hc
  rw [ChainOf, dplRemoveAtIndex, if_neg (by simp [hhead])]
  simp only [href, hsize, hhead, ok_bind, Heap.load, Heap.modify, ha, hcc, headPtr_cons, hi, if_pos,
    reduceCtorEq, if_false, Heap.free, Heap.write_cells_of_ne hca.symm]
  refine ⟨_, rfl, ⟨(List.nodup_cons.mp hc.nodup).2, rfl, ?_⟩, rfl⟩
  refine hc.links.unlink_front hc.nodup ?_ fun d hda hdc => ?_
  · simp [hca]
  · simp [hda, hdc]

/-- On a list of at least two nodes the first one has a successor. -/
theorem IsChain.load_first (hc : IsChain list xs) (hlen : 1 < xs.length) :
    ∃ first, list.heap.load list.head = .ok first ∧ first.next ≠ none := by
  rcases xs with - | ⟨⟨d, ed⟩, - | ⟨y, ws⟩⟩
  · simp at hlen
  · simp at hlen
  · rw [hc.head]
    exact ⟨_, Heap.load_some hc.links.1, by simp [headPtr]⟩

theorem dplRemoveAtIndex_between (hc : IsChain list (ys ++ (b, eb) :: (a, e) :: (c, ec) :: zs))
    (hi : i = ys.length + 1) :
    ChainOf (dplRemoveAtIndex list i free) list (ys ++ (b, eb) :: (c, ec) :: zs) := by
  have hhead : list.head ≠ none := by simp [hc.head_eq_none_iff]
  obtain ⟨-, hb, ha, hcc, -⟩ := links_append.mp hc.links
  have href := dplGetReferenceAtIndex_at (ys ++ [(b, eb)]) (by simpa using hc) i
    (by simp [clampIndex, hi])
  have hsize := dplSize_spec hc
  obtain ⟨first, hfirst, hnext⟩ := hc.load_first (by simp; omega)
  have hlt : i < ((ys ++ (b, eb) :: (a, e) :: (c, ec) :: zs).length : Int) - 1 := by
    simp [hi]
    omega
  have hpos : ¬ i ≤ 0 := by omega
  have hnd := hc.nodup
  obtain ⟨hba, hca, hcb⟩ : b ≠ a ∧ c ≠ a ∧ c ≠ b := by grind
  rw [ChainOf, dplRemoveAtIndex, if_neg hhead]
  simp only [href, hsize, hfirst, hnext, hlt, hpos, ok_bind, if_pos, if_false,
    Heap.load_some ha, Heap.modify, hb, hcc, ha, headPtr_cons, Heap.free,
    Heap.write_cells_of_ne hcb.symm, Heap.write_cells_of_ne hba.symm,
      Heap.write_cells_of_ne hca.symm]
  refine ⟨_, rfl, ⟨by grind, ?_, ?_⟩, rfl⟩
  · simpa using hc.head
  · refine hc.links.unlink_between hnd ?_ ?_ fun d hda hdb hdc => ?_
    · simp [hba]
    · simp [hca, hcb]
    · simp [hda, hdb, hdc]

theorem dplRemoveAtIndex_back (hc : IsChain list (ys ++ [(b, eb), (a, e)]))
    (hi : (ys.length : Int) < i) :
    ChainOf (dplRemoveAtIndex list i free) list (ys ++ [(b, eb)]) := by
  have hhead : list.head ≠ none := by simp [hc.head_eq_none_iff]
  obtain ⟨-, hb, ha, -⟩ := links_append.mp hc.links
  have href := dplGetReferenceAtIndex_at (ys ++ [(b, eb)]) (by simpa using hc) i
    (by simp [clampIndex]; omega)
  have hsize := dplSize_spec hc
  obtain ⟨first, hfirst, hnext⟩ := hc.load_first (by simp)
  have hge : ¬ i < ((ys ++ [(b, eb), (a, e)]).length : Int) - 1 := by
    simp
    omega
  have hpos : ¬ i ≤ 0 := by omega
  have hnd := hc.nodup
  have hba : b ≠ a := by grind
  rw [ChainOf, dplRemoveAtIndex, if_neg hhead]
  simp only [href, hsize, hfirst, hnext, hge, hpos, ok_bind, if_false, Heap.load_some ha,
    Heap.modify, hb, ha, headPtr_nil, Heap.free, Heap.write_cells_of_ne hba.symm]
  refine ⟨_, rfl, ⟨by grind, ?_, ?_⟩, rfl⟩
  · simpa using hc.head
  · refine hc.links.unlink_back hnd ?_ fun d hda hdb => ?_
    · simp [hba]
    · simp [hda, hdb]

/-- Removal deletes the node at the clamped position; the empty list stays as it is. -/
theorem dplRemoveAtIndex_spec (hc : IsChain list xs) (i : Int) (free : Bool) :
    ChainOf (dplRemoveAtIndex list i free) list (seqRemoveAtIndex xs i) := by
  rw [seqRemoveAtIndex, clampIndex]
  rcases xs with - | ⟨⟨b, eb⟩, - | ⟨⟨c, ec⟩, zs⟩⟩
  · exact ⟨list, by simp [dplRemoveAtIndex, hc.head_eq_none_iff], by simpa using hc, rfl⟩
  · simpa using dplRemoveAtIndex_single hc
  · rcases le_or_gt i 0 with h0 | h0
    · rw [Int.toNat_eq_zero.mpr h0, Nat.zero_min, List.eraseIdx_cons_zero]
      exact dplRemoveAtIndex_front hc h0
    · obtain ⟨k, rfl⟩ : ∃ k : Nat, i = k + 1 := ⟨i.toNat - 1, by omega⟩
      generalize hl : (b, eb) :: (c, ec) :: zs = l at *
      have hlen : 2 ≤ l.length := by simp [← hl]
      clear hl
      rcases lt_or_ge (k + 1) (l.length - 1) with hlt | hge
      · obtain ⟨ys, ⟨d, ed⟩, ⟨a, e⟩, ws, rfl, rfl⟩ :=
          exists_split_between (by omega : k + 1 < l.length)
        rcases ws with - | ⟨⟨c', ec'⟩, ws⟩
        · simp at hlt
        · have hmin : min ((ys.length : Int) + 1).toNat
              ((ys ++ (d, ed) :: (a, e) :: (c', ec') :: ws).length - 1) = ys.length + 1 := by
            omega
          rw [hmin, List.eraseIdx_append_of_length_le (by omega)]
          simpa using dplRemoveAtIndex_between hc rfl
      · obtain ⟨ys, ⟨d, ed⟩, ⟨a, e⟩, ws, rfl, hys⟩ :=
          exists_split_between (by omega : (l.length - 2) + 1 < l.length)
        obtain rfl : ws = [] := by
          simp at hys
          exact List.length_eq_zero_iff.mp (by omega)
        have hmin : min ((k : Int) + 1).toNat ((ys ++ [(d, ed), (a, e)]).length - 1) =
            ys.length + 1 := by
          simp at hge ⊢
          omega
        rw [hmin, List.eraseIdx_append_of_length_le (by omega)]
        have hlt : (ys.length : Int) < k + 1 := by
          simp at hge
          omega
        simpa using dplRemoveAtIndex_back hc hlt

end SensorGateway
