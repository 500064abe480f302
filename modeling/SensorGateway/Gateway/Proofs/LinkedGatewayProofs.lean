import SensorGateway.Gateway.LinkedGateway
import SensorGateway.Gateway.Proofs.SbufferProofs
import SensorGateway.Gateway.Proofs.DeliveryProofs

/-!
# The threads over the nodes are the threads over the sequence

Related states step alike: a step is enabled over the nodes exactly when it is over the sequence, it
does not fault, and it leads to related states. So every result about the threads holds over the
nodes.
-/

namespace SensorGateway

open Transition PtrHeap DoublyLinked SinglyLinked

variable {α : Type} {σ : Consumer → Type}

namespace Sbuffer

variable {buffer buffer' : Sbuffer α} {xs : List (Nat × α)} {m : Allocator (SinglyLinked.Node α)}

/-- The nodes of the queue, and no other block. -/
structure Owns (buffer : Sbuffer α) (xs : List (Nat × α)) : Prop extends IsQueue buffer xs where
  only : ∀ a, buffer.heap.cells a ≠ none → a ∈ xs.map Prod.fst

theorem owns_init : Owns (init : Sbuffer α) [] where
  toIsQueue := isQueue_init
  only := fun _ h => absurd rfl h

/-- An insertion allocates one node. -/
theorem cells_of_insert {d : α} {result : Int} (h : buffer.insert m d = .ok (result, buffer'))
    (a : Nat) (ha : buffer'.heap.cells a ≠ none) :
    a = m.malloc buffer.heap ∨ buffer.heap.cells a ≠ none := by
  by_cases hnew : a = m.malloc buffer.heap
  · exact .inl hnew
  · refine .inr fun hnone => ha ?_
    unfold insert at h
    split_ifs at h with htail
    · obtain rfl := congrArg Prod.snd (Except.ok.inj h)
      rwa [Heap.write_cells_of_ne hnew]
    · obtain ⟨heap, hmodify, h⟩ := bind_eq_ok h
      obtain ⟨tail, -, h⟩ := bind_eq_ok h
      obtain rfl := congrArg Prod.snd (Except.ok.inj h)
      rw [Heap.modify_eq_none_iff hmodify, Heap.write_cells_of_ne hnew]
      exact hnone

theorem Owns.insert (h : Owns buffer xs) (m : Allocator (SinglyLinked.Node α)) (d : α) :
    ∃ buffer', buffer.insert m d = .ok (sbufferSuccess, buffer') ∧
      Owns buffer' (xs ++ [(m.malloc buffer.heap, d)]) := by
  obtain ⟨buffer', hinsert, hqueue⟩ := insert_spec m h.toIsQueue d
  refine ⟨buffer', hinsert, hqueue, ?_⟩
  intro a ha
  rcases cells_of_insert hinsert a ha with rfl | hold
  · simp
  · have hmem := h.only a hold
    rw [List.map_append]
    exact List.mem_append_left _ hmem

/-- A removal frees the node at the head. -/
theorem heap_of_remove {a : Nat} {data data' : Option α} {result : Int}
    (hhead : buffer.head = some a) (h : buffer.remove data = .ok (result, data', buffer')) :
    buffer'.heap = buffer.heap.erase a := by
  rw [remove, if_neg (by simp [hhead]), hhead] at h
  obtain ⟨dummy, -, h⟩ := bind_eq_ok h
  obtain ⟨heap, hfree, h⟩ := bind_eq_ok h
  obtain rfl := congrArg (fun r => r.2.2) (Except.ok.inj h)
  exact Heap.eq_erase_of_free hfree

theorem Owns.remove {x : Nat × α} (h : Owns buffer (x :: xs)) (data : Option α) :
    ∃ buffer', buffer.remove data = .ok (sbufferSuccess, some x.2, buffer') ∧ Owns buffer' xs := by
  obtain ⟨buffer', hremove, hqueue⟩ := remove_spec h.toIsQueue data
  refine ⟨buffer', hremove, hqueue, ?_⟩
  intro a ha
  rw [heap_of_remove h.head hremove, Ne, Heap.erase_eq_none_iff, not_or] at ha
  have hmem := h.only a ha.2
  rw [List.map_cons] at hmem
  exact (List.mem_cons.mp hmem).resolve_left ha.1

/-! ## `sbuffer_free` -/

/-- The loop frees every node once, and nothing else. -/
theorem freeLoop_spec (hnd : (xs.map Prod.fst).Nodup) (fuel : Nat) (hfuel : xs.length < fuel) :
    ∀ {h : Heap (SinglyLinked.Node α)}, Chain h xs none →
      ∃ h', freeLoop fuel (headPtr xs none) h = .ok h' ∧
        ∀ a, h'.cells a = none ↔ a ∈ xs.map Prod.fst ∨ h.cells a = none := by
  induction xs generalizing fuel with
  | nil =>
    obtain ⟨fuel, rfl⟩ := Nat.exists_eq_succ_of_ne_zero (Nat.ne_of_gt hfuel)
    intro h _
    exact ⟨h, rfl, by simp⟩
  | cons x xs ih =>
    obtain ⟨a, e⟩ := x
    obtain ⟨fuel, rfl⟩ := Nat.exists_eq_succ_of_ne_zero (Nat.ne_of_gt (Nat.zero_lt_of_lt hfuel))
    obtain ⟨hnew, hnd⟩ := List.nodup_cons.mp hnd
    intro h hchain
    obtain ⟨hload, hrest⟩ := chain_cons.mp hchain
    have hfree : h.free (some a) = .ok (h.erase a) := by simp [Heap.free, hload]
    obtain ⟨h', hloop, hcells⟩ := ih hnd fuel (Nat.lt_of_succ_lt_succ hfuel) (hrest.erase hnew)
    refine ⟨h', ?_, ?_⟩
    · rw [headPtr, freeLoop, Heap.load_some hload, ok_bind, hfree, ok_bind, hloop]
    · intro b
      rw [hcells, Heap.erase_eq_none_iff, List.map_cons, List.mem_cons]
      tauto

theorem Owns.free (h : Owns buffer xs) : ∃ h', buffer.free = .ok h' ∧ ∀ a, h'.cells a = none := by
  have hlength : xs.length ≤ buffer.heap.bound := by
    have hle := Heap.length_le_bound h.nodup fun a ha => h.chain.cells_ne_none a ha
    rwa [List.length_map] at hle
  obtain ⟨h', hloop, hcells⟩ := freeLoop_spec h.nodup _ (Nat.lt_succ_of_le hlength) h.chain
  refine ⟨h', ?_, ?_⟩
  · rw [Sbuffer.free, h.head]
    exact hloop
  · intro a
    rw [hcells]
    by_cases ha : buffer.heap.cells a = none
    · exact .inr ha
    · exact .inl (h.only a ha)

end Sbuffer

/-! ## The threads do not look at the buffer outside the sections -/

namespace Gateway

variable {st : Setup α σ}

/-- A step outside the three sections, over any content of the buffer. -/
theorem step_withBuffer (s : Gateway α σ) (queue : List α) {a : Action α}
    (ha : ∀ d, a ≠ .sbufferInsert d) (hget : ∀ c, a ≠ .sbufferGetData c)
    (hremove : ∀ c, a ≠ .remove c) :
    step st { s with buffer := queue } a =
      (step st s a).map fun t => { t with buffer := queue } := by
  cases a with
  | sbufferInsert d => exact absurd rfl (ha d)
  | sbufferGetData c => exact absurd rfl (hget c)
  | remove c => exact absurd rfl (hremove c)
  | connmgrTest =>
    simp only [step, connmgrTest]
    split_ifs <;> rfl
  | connmgrNext =>
    simp only [step, connmgrNext]
    split_ifs <;> rfl
  | connmgrReturn =>
    simp only [step, connmgrReturn]
    split_ifs <;> rfl
  | connmgrEnd =>
    simp only [step, connmgrEnd]
    split_ifs <;> rfl
  | initConnection =>
    simp only [step, initConnection]
    split
    · split_ifs <;> rfl
    · rfl
  | giveUp =>
    simp only [step, giveUp]
    split_ifs <;> rfl
  | loopTest c =>
    simp only [step, loopTest]
    split_ifs <;> rfl
  | process c =>
    simp only [step, process]
    split <;> rfl
  | loopBarrier c serial =>
    simp only [step, arriveLoopBarrier]
    split_ifs <;> rfl
  | prepBarrier c =>
    simp only [step, arrivePrepBarrier]
    split_ifs <;> rfl

end Gateway

namespace LinkedGateway

variable {st : Setup α σ} {s s' : LinkedGateway α σ} {g g' : Gateway α σ}
  {m : Allocator (SinglyLinked.Node α)}

/-- The threads over the nodes, and the threads over the sequence of their measurements. -/
def Represents (s : LinkedGateway α σ) (g : Gateway α σ) : Prop :=
  ∃ xs, s.nodes.Owns xs ∧ g = s.withQueue (xs.map Prod.snd)

theorem represents_init (acc : (c : Consumer) → σ c) :
    Represents (init acc : LinkedGateway α σ) (Gateway.init acc) :=
  ⟨[], Sbuffer.owns_init, rfl⟩

/-- A step over the sequence, and the step over the nodes that it stands for: neither is enabled, or
    both are and lead to related states. -/
def Matched (g : Option (Gateway α σ)) (s : Option (Except Fault (LinkedGateway α σ))) : Prop :=
  g = none ∧ s = none ∨ ∃ g' s', g = some g' ∧ s = some (.ok s') ∧ Represents s' g'

theorem matched_insert (h : Represents s g) (d : α) : Matched (g.insert d) (s.insert m d) := by
  obtain ⟨xs, howns, rfl⟩ := h
  unfold Gateway.insert insert withQueue
  dsimp only
  by_cases hc : s.gateway.connmgr = .iteration ∧ s.gateway.wrlocked = none
  · obtain ⟨nodes, hinsert, howns'⟩ := howns.insert m d
    rw [if_pos hc, if_pos hc, hinsert, ok_bind]
    refine .inr ⟨_, _, rfl, rfl, _, howns', ?_⟩
    rw [List.map_append]
    rfl
  · rw [if_neg hc, if_neg hc]
    exact .inl ⟨rfl, rfl⟩

theorem matched_getData (h : Represents s g) (c : Consumer) :
    Matched (g.getData c) (s.getData c) := by
  obtain ⟨xs, howns, rfl⟩ := h
  unfold Gateway.getData getData withQueue
  dsimp only
  by_cases hc : s.gateway.pc c = .getData ∧ s.gateway.wrlocked = none
  · rw [if_pos hc, if_pos hc, Sbuffer.getData_spec howns.toIsQueue, ok_bind]
    exact .inr ⟨_, _, rfl, rfl, xs, howns, rfl⟩
  · rw [if_neg hc, if_neg hc]
    exact .inl ⟨rfl, rfl⟩

theorem matched_remove (h : Represents s g) (c : Consumer) : Matched (g.remove c) (s.remove c) := by
  obtain ⟨xs, howns, rfl⟩ := h
  unfold Gateway.remove remove withQueue
  dsimp only
  by_cases hc : s.gateway.pc c = .removing ∧ s.gateway.wrlocked = none
  · rw [if_pos hc, if_pos hc]
    cases xs with
    | nil =>
      have hremove : s.nodes.remove (s.gateway.data c) =
          .ok (sbufferNoData, s.gateway.data c, s.nodes) := by
        rw [Sbuffer.remove, if_pos (howns.head_eq_none_iff.mpr rfl)]
      rw [hremove, ok_bind]
      exact .inr ⟨_, _, rfl, rfl, [], howns, rfl⟩
    | cons x xs =>
      obtain ⟨nodes, hremove, howns'⟩ := howns.remove (s.gateway.data c)
      rw [hremove, ok_bind]
      exact .inr ⟨_, _, rfl, rfl, xs, howns', rfl⟩
  · rw [if_neg hc, if_neg hc]
    exact .inl ⟨rfl, rfl⟩

/-- Related states step alike, and no step faults. -/
theorem matched_step (m : Allocator (SinglyLinked.Node α)) (st : Setup α σ) (h : Represents s g)
    (a : Action α) : Matched (Gateway.step st g a) (s.step m st a) := by
  have hother : (∀ d, a ≠ .sbufferInsert d) → (∀ c, a ≠ .sbufferGetData c) → (∀ c, a ≠ .remove c) →
      Matched (Gateway.step st g a)
        ((s.gateway.step st a).map fun gateway => .ok { s with gateway := gateway }) := by
    intro hinsert hget hremove
    obtain ⟨xs, howns, rfl⟩ := h
    rw [withQueue, Gateway.step_withBuffer _ _ hinsert hget hremove]
    cases s.gateway.step st a with
    | none => exact .inl ⟨rfl, rfl⟩
    | some t => exact .inr ⟨_, _, rfl, rfl, xs, howns, rfl⟩
  cases a with
  | sbufferInsert d => exact matched_insert h d
  | sbufferGetData c => exact matched_getData h c
  | remove c => exact matched_remove h c
  | _ => exact hother (by simp) (by simp) (by simp)

theorem represents_of_next (h : Represents s g) {a : Action α} (hs : next m st s a = some s') :
    ∃ b g', Gateway.step st g b = some g' ∧ Represents s' g' := by
  rcases matched_step m st h a with ⟨-, hnone⟩ | ⟨g', t, hg, ht, hR⟩
  · rw [next, hnone] at hs
    cases hs
  · rw [next, ht] at hs
    obtain rfl := Option.some.inj hs
    exact ⟨a, g', hg, hR⟩

/-- Over the nodes of the shared buffer, with any allocator and for every interleaving: the run is
    one of the threads over a queue, whose elements are the nodes from `head` on; no step
    dereferences a pointer that is NULL or was freed; whatever the threads can do over the queue
    they can do over the nodes; the measurements that were inserted and not removed are the
    allocated nodes, and `sbuffer_free` frees each of them once and leaves none. -/
theorem linked_gateway_refines (m : Allocator (SinglyLinked.Node α)) (st : Setup α σ)
    (acc : (c : Consumer) → σ c) (s : LinkedGateway α σ) (h : Reach (next m st) (init acc) s) :
    ∃ xs : List (Nat × α), s.nodes.IsQueue xs ∧
      (∀ a, s.nodes.heap.cells a ≠ none ↔ a ∈ xs.map Prod.fst) ∧
      s.gateway.inserted = s.gateway.removed ++ xs.map Prod.snd ∧
      Reach (Gateway.step st) (Gateway.init acc) (s.withQueue (xs.map Prod.snd)) ∧
      (∀ a fault, s.step m st a ≠ some (.error fault)) ∧
      (∀ a g', Gateway.step st (s.withQueue (xs.map Prod.snd)) a = some g' →
        ∃ s' ys, next m st s a = some s' ∧ s'.nodes.IsQueue ys ∧
          g' = s'.withQueue (ys.map Prod.snd)) ∧
      ∃ h', s.nodes.free = .ok h' ∧ ∀ a, h'.cells a = none := by
  obtain ⟨g, hreach, xs, howns, rfl⟩ := h.relates (represents_init acc)
    fun s g a s' hR _ hs => represents_of_next hR hs
  have hmatched := fun a => matched_step m st ⟨xs, howns, rfl⟩ a
  refine ⟨xs, howns.toIsQueue, ?_, (Gateway.roundInv_of_reach hreach).fifo, hreach, ?_,
    ?_, howns.free⟩
  · intro a
    exact ⟨howns.only a, howns.chain.cells_ne_none a⟩
  · intro a fault hfault
    rcases hmatched a with ⟨-, hnone⟩ | ⟨g', t, -, ht, -⟩
    · rw [hnone] at hfault
      cases hfault
    · rw [ht] at hfault
      cases hfault
  · intro a g' hg
    rcases hmatched a with ⟨hnone, -⟩ | ⟨g'', t, hg', ht, ys, howns', rfl⟩
    · rw [hnone] at hg
      cases hg
    · rw [hg] at hg'
      obtain rfl := Option.some.inj hg'
      exact ⟨t, ys, by rw [next, ht]; rfl, howns'.toIsQueue, rfl⟩

theorem linked_gateway_refines_sample : ∃ s h',
    run (next .bump Gateway.sampleSetup) (init fun _ => []) Gateway.sampleRound = some s ∧
      s.gateway.inserted = [7, 9] ∧ s.nodes.free = .ok h' ∧ ∀ a, h'.cells a = none := by
  obtain ⟨s, hs, hinserted⟩ : ∃ s, run (next .bump Gateway.sampleSetup) (init fun _ => [])
      Gateway.sampleRound = some s ∧ s.gateway.inserted = [7, 9] := ⟨_, rfl, rfl⟩
  obtain ⟨xs, -, -, -, -, -, -, h', hfree, hnone⟩ :=
    linked_gateway_refines .bump Gateway.sampleSetup (fun _ => []) s (reachVia_of_runVia hs)
  exact ⟨s, h', hs, hinserted, hfree, hnone⟩

end LinkedGateway

end SensorGateway
