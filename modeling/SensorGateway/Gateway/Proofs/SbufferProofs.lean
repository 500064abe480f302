import SensorGateway.Gateway.Sbuffer
import Mathlib.Tactic

/-!
# The shared buffer is a queue

An insertion decides by `tail` whether the buffer is empty, a removal by `head`. Both agree with the
chain, since a removal that takes the last node resets both pointers.
-/

namespace SensorGateway

open PtrHeap DoublyLinked SinglyLinked

namespace Sbuffer

variable {α : Type} {buffer : Sbuffer α} {xs : List (Nat × α)} {m : Allocator (SinglyLinked.Node α)}
  {data : Option α}

theorem isQueue_init : IsQueue (init : Sbuffer α) [] where
  nodup := List.nodup_nil
  head := rfl
  tail := rfl
  chain := trivial

theorem headPtr_eq_none_iff : headPtr xs none = none ↔ xs = [] := by
  cases xs <;> simp [headPtr]

theorem lastPtr_eq_none_iff : lastPtr none xs = none ↔ xs = [] := by
  rcases List.eq_nil_or_concat xs with rfl | ⟨ys, ⟨b, eb⟩, rfl⟩
  · simp
  · simp

theorem IsQueue.head_eq_none_iff (hq : IsQueue buffer xs) : buffer.head = none ↔ xs = [] := by
  rw [hq.head, headPtr_eq_none_iff]

theorem IsQueue.tail_eq_none_iff (hq : IsQueue buffer xs) : buffer.tail = none ↔ xs = [] := by
  rw [hq.tail, lastPtr_eq_none_iff]

/-- `tail` is the last node, and it is the end of the chain. -/
theorem IsQueue.tail_is_last (hq : IsQueue buffer xs) {ys : List (Nat × α)} {b : Nat} {eb : α}
    (hxs : xs = ys ++ [(b, eb)]) :
    buffer.tail = some b ∧ buffer.heap.cells b = some ⟨none, eb⟩ := by
  subst hxs
  refine ⟨by simp [hq.tail], ?_⟩
  have hlast := (chain_append.mp hq.chain).2
  exact hlast.1

theorem getData_spec (hq : IsQueue buffer xs) (data : Option α) :
    buffer.getData data = .ok (sbufferGetData (xs.map Prod.snd) data) := by
  cases xs with
  | nil =>
    rw [getData, if_pos (hq.head_eq_none_iff.mpr rfl)]
    rfl
  | cons x xs =>
    rw [getData, if_neg (by simp [hq.head_eq_none_iff]), hq.head, headPtr,
      Heap.load_some hq.chain.1, ok_bind]
    rfl

theorem insert_empty (hq : IsQueue buffer []) (d : α) :
    ∃ buffer', buffer.insert m d = .ok (sbufferSuccess, buffer') ∧
      IsQueue buffer' [(m.malloc buffer.heap, d)] := by
  rw [insert, if_pos (hq.tail_eq_none_iff.mpr rfl)]
  exact ⟨_, rfl, by simp, rfl, rfl, by simp⟩

theorem insert_back {ys : List (Nat × α)} {b : Nat} {eb : α} (hq : IsQueue buffer (ys ++ [(b, eb)]))
    (d : α) : ∃ buffer', buffer.insert m d = .ok (sbufferSuccess, buffer') ∧
      IsQueue buffer' (ys ++ [(b, eb), (m.malloc buffer.heap, d)]) := by
  have hnew := hq.chain.not_mem (m.malloc_unused buffer.heap)
  obtain ⟨htail, hb⟩ := hq.tail_is_last rfl
  rw [insert, htail, if_neg (by simp)]
  generalize m.malloc buffer.heap = a at *
  have hnd : ((ys ++ [(b, eb), (a, d)]).map Prod.fst).Nodup := by
    have := hq.nodup
    grind
  have hba : b ≠ a := by grind
  simp only [Heap.modify, Heap.load, Heap.write_cells_of_ne hba, Heap.write_cells_self, hb, ok_bind]
  refine ⟨_, rfl, hnd, ?_, by simp, hq.chain.link_back hnd ?_ ?_ fun c hca hcb => ?_⟩
  · simpa using hq.head
  · simp
  · simp [hba.symm]
  · simp [hca, hcb]

theorem insert_spec (m : Allocator (SinglyLinked.Node α)) (hq : IsQueue buffer xs) (d : α) :
    ∃ buffer', buffer.insert m d = .ok (sbufferSuccess, buffer') ∧
      IsQueue buffer' (xs ++ [(m.malloc buffer.heap, d)]) := by
  rcases List.eq_nil_or_concat xs with rfl | ⟨ys, ⟨b, eb⟩, rfl⟩
  · exact insert_empty hq d
  · rw [List.concat_eq_append] at hq ⊢
    rw [List.append_assoc]
    exact insert_back hq d

/-- A removal frees the first node; it takes both pointers to NULL exactly when there was no
    other. -/
theorem remove_spec {x : Nat × α} (hq : IsQueue buffer (x :: xs)) (data : Option α) :
    ∃ buffer', buffer.remove data = .ok (sbufferSuccess, some x.2, buffer') ∧
      IsQueue buffer' xs := by
  obtain ⟨a, e⟩ := x
  have hhead : buffer.head = some a := hq.head
  have ha := hq.chain.1
  have hfree : buffer.heap.free (some a) = .ok (buffer.heap.erase a) := by simp [Heap.free, ha]
  obtain ⟨hnew, hnd⟩ := List.nodup_cons.mp hq.nodup
  rw [remove, if_neg (by simp [hhead]), hhead, Heap.load_some ha, ok_bind, hfree]
  rcases List.eq_nil_or_concat xs with rfl | ⟨ys, ⟨b, eb⟩, rfl⟩
  · have htail : some a = buffer.tail := by simp [hq.tail]
    rw [if_pos htail]
    exact ⟨_, rfl, hnd, rfl, rfl, trivial⟩
  · have htail : buffer.tail = some b := by simp [hq.tail]
    have hba : some a ≠ buffer.tail := by
      rw [htail]
      intro heq
      exact hnew (by simp [Option.some.inj heq])
    rw [if_neg hba]
    exact ⟨_, rfl, hnd, rfl, by simp [htail], hq.chain.2.erase hnew⟩

/-- A call does on the nodes what it does on the queue. -/
theorem call_spec (m : Allocator (SinglyLinked.Node α)) (hq : IsQueue buffer xs) (data : Option α)
    (c : Call α) :
    ∃ result data' buffer' xs', buffer.call m data c = .ok (result, data', buffer') ∧
      IsQueue buffer' xs' ∧
        c.onQueue (xs.map Prod.snd) data = (result, data', xs'.map Prod.snd) := by
  cases c with
  | insert d =>
    obtain ⟨buffer', hr, hq'⟩ := insert_spec m hq d
    refine ⟨sbufferSuccess, data, buffer', _, ?_, hq', ?_⟩
    · rw [call, hr]
      rfl
    · simp [Call.onQueue, sbufferInsert]
  | remove =>
    cases xs with
    | nil =>
      refine ⟨sbufferNoData, data, buffer, [], ?_, hq, rfl⟩
      rw [call, remove, if_pos (hq.head_eq_none_iff.mpr rfl)]
    | cons x xs =>
      obtain ⟨buffer', hr, hq'⟩ := remove_spec hq data
      exact ⟨sbufferSuccess, some x.2, buffer', xs, hr, hq', rfl⟩

/-- Every sequence of calls, by induction. -/
theorem runCalls_spec (m : Allocator (SinglyLinked.Node α)) (hq : IsQueue buffer xs)
    (data : Option α) (calls : List (Call α)) :
    ∃ results buffer' xs', runCalls m buffer data calls = .ok (results, buffer') ∧
      IsQueue buffer' xs' ∧
        queueCalls (xs.map Prod.snd) data calls = (results, xs'.map Prod.snd) := by
  induction calls generalizing buffer xs data with
  | nil => exact ⟨[], buffer, xs, rfl, hq, rfl⟩
  | cons c calls ih =>
    obtain ⟨result, data', buffer', xs', hr, hq', hqueue⟩ := call_spec m hq data c
    obtain ⟨results, buffer'', xs'', hrest, hq'', hqueue'⟩ := ih hq' data'
    refine ⟨(result, data') :: results, buffer'', xs'', ?_, hq'', ?_⟩
    · rw [runCalls, hr, ok_bind]
      show (do let r ← runCalls m buffer' data' calls; _) = _
      rw [hrest, ok_bind]
    · rw [queueCalls, hqueue]
      show ((result, data') :: (queueCalls (xs'.map Prod.snd) data' calls).1,
        (queueCalls (xs'.map Prod.snd) data' calls).2) = _
      rw [hqueue']

/-- From `sbuffer_init`, every sequence of insertions and removals, repeated draining and refilling
    included, returns what a queue returns and leaves the nodes of the queue: `head` and `tail` are
    NULL together, otherwise `tail` is the last node of the chain from `head` and its `next` is
    NULL. `sbuffer_get_data` then reads the front, or finds no data exactly when the queue is
    empty. -/
theorem sbuffer_refines_queue (m : Allocator (SinglyLinked.Node α)) (data : Option α)
    (calls : List (Call α)) :
    ∃ results buffer xs, runCalls m init data calls = .ok (results, buffer) ∧ IsQueue buffer xs ∧
      queueCalls [] data calls = (results, xs.map Prod.snd) ∧
      (buffer.head = none ↔ buffer.tail = none) ∧
      (∀ ys b e, xs = ys ++ [(b, e)] →
        buffer.tail = some b ∧ buffer.heap.cells b = some ⟨none, e⟩) ∧
      ∀ read, buffer.getData read = .ok (sbufferGetData (xs.map Prod.snd) read) := by
  obtain ⟨results, buffer, xs, hr, hq, hqueue⟩ := runCalls_spec m isQueue_init data calls
  refine ⟨results, buffer, xs, hr, hq, hqueue, ?_, ?_, getData_spec hq⟩
  · rw [hq.head_eq_none_iff, hq.tail_eq_none_iff]
  · intro ys b e hxs
    exact hq.tail_is_last hxs

/-- Drained and filled again: the second node does not hang behind a freed one. -/
example : (runCalls Allocator.bump (init : Sbuffer Nat) none
      [.insert 5, .remove, .remove, .insert 7, .insert 8, .remove]).bind
      (fun r => r.2.getData none) = .ok (sbufferSuccess, some 8) := rfl

end Sbuffer

end SensorGateway
