import SensorGateway.Connmgr.LinkedConnmgr
import SensorGateway.Connmgr.Proofs.ClosingProofs
import SensorGateway.Dplist.Proofs.SharedProofs

/-!
# The connection manager over the nodes is the one over the sequence

An iteration over the nodes does not fault, and it does what the iteration over the sequence of the
connections does. So every result about the connection manager holds over the nodes. Nothing is
allocated but the nodes and the connections of the list.
-/

namespace SensorGateway

open Transition PtrHeap DoublyLinked Connmgr

namespace LinkedConnmgr

abbrev Connections := List (Entry ConnectionElement SensorSocket)

variable (timeout : Int) (mn : NodeAllocator ConnectionElement) (m : Allocator SensorSocket)
  {s s' : LinkedConnmgr} {entries : Connections} {c c' : Connmgr}

/-- The list has these connections, and nothing else is allocated. -/
structure Owns (s : LinkedConnmgr) (entries : Connections) : Prop extends
    Owned s.list s.memory entries where
  callbacks : s.list.callbacks = connectionCallbacks id
  released : s.released = none

theorem owns_start (sd : Nat) (fd : Nat → PollFd) (time : Int) : Owns (start sd fd time) [] where
  toOwned := owned_dplCreate _
  callbacks := rfl
  released := rfl

theorem Owns.block (h : Owns s entries) (element : ConnectionElement) :
    s.list.callbacks.block element = element.block := by
  rw [h.callbacks]
  rfl

/-- The state over the sequence. -/
abbrev abstract (s : LinkedConnmgr) (entries : Connections) : Connmgr :=
  s.withConnections (entries.map Entry.value)

/-- A call does not fault, and its result stands for this state over the sequence. -/
def Leads (r : Except Fault LinkedConnmgr) (c : Connmgr) : Prop :=
  ∃ s entries, r = .ok s ∧ Owns s entries ∧ c = s.abstract entries

/-! ## The steps of an iteration -/

theorem accept_leads (h : Owns s entries) (listSize : Nat) (result : Accept) (time : Int) :
    Leads (s.accept mn m listSize result time)
      ((s.abstract entries).accept listSize result time) := by
  let e : ConnectionElement := ⟨m.malloc s.memory⟩
  have hcopy : s.list.callbacks.block e = m.malloc s.memory := h.block e
  have hstored : s.list.callbacks.stored (some e) true = some e := by
    rw [h.callbacks]
    rfl
  have hnew : s.memory.cells (s.list.callbacks.block e) = none := by
    rw [hcopy]
    exact m.malloc_unused s.memory
  obtain ⟨list', hinsert, hcb, howned⟩ := h.toOwned.insert mn hstored hnew entries.length
    ⟨firstSensorId, newSocket result, time, s.server.accepted⟩
  rw [hcopy] at howned
  rw [accept, h.size, ok_bind, hinsert, ok_bind]
  refine ⟨_, _, rfl, ⟨howned, hcb.trans h.callbacks, h.released⟩, ?_⟩
  rw [abstract, abstract, map_seqInsertAtIndex, withConnections, Connmgr.accept, withConnections]
  simp only [List.length_map]
  rfl

theorem store_leads (h : Owns s entries) {i : Nat} {x : Entry ConnectionElement SensorSocket}
    (hi : entries[i]? = some x) (r : Served) :
    ∃ s', s.store i (s.list.pointer (some x.element)) r = .ok s' ∧
      Owns s' (entries.set i { x with value := r.sensor }) ∧
      (s.abstract entries).store i r =
        s'.abstract (entries.set i { x with value := r.sensor }) := by
  have hcell := h.cells x (List.mem_of_getElem? hi)
  have hmodify : s.memory.modify (s.list.pointer (some x.element)) (fun _ => r.sensor) =
      .ok (s.memory.write (s.list.callbacks.block x.element) r.sensor) := by
    simp [Heap.modify, Dplist.pointer, hcell]
  rw [store, hmodify, ok_bind]
  refine ⟨_, rfl, ⟨h.toOwned.write hi r.sensor, h.callbacks, h.released⟩, ?_⟩
  rw [abstract, abstract, List.map_set]
  rfl

theorem removeSensor_leads (h : Owns s entries) {i : Nat} (hi : i < entries.length)
    (listSize : Nat) :
    Leads (s.removeSensor i listSize) ((s.abstract entries).removeSensor i listSize) := by
  obtain ⟨list', hremove, hcb, howned⟩ := h.toOwned.remove (List.getElem?_eq_getElem hi)
  have hseq : seqRemoveAtIndex (s.abstract entries).connections i =
      (entries.eraseIdx i).map Entry.value := by
    show seqRemoveAtIndex (entries.map Entry.value) i = _
    rw [seqRemoveAtIndex_of_lt (by simpa using hi), List.eraseIdx_map]
  rw [removeSensor, hremove, ok_bind]
  refine ⟨_, _, rfl, ⟨howned, hcb.trans h.callbacks, h.released⟩, ?_⟩
  rw [Connmgr.removeSensor, hseq]
  rfl

/-- The loop over the connections. -/
theorem sensorLoop_leads (input : IterationInput) (listSize : Nat) {n i : Nat} (h : Owns s entries)
    (hle : i + n ≤ entries.length) :
    Leads (s.sensorLoop timeout input listSize n i)
      (SensorGateway.sensorLoop timeout input listSize n i (s.abstract entries)) := by
  induction n generalizing s entries i with
  | zero => exact ⟨s, entries, rfl, h, rfl⟩
  | succ n ih =>
    have hlt : i < entries.length := by omega
    obtain ⟨x, hi⟩ : ∃ x, entries[i]? = some x := ⟨_, List.getElem?_eq_getElem hlt⟩
    have hget : seqGetElementAtIndex (s.abstract entries).connections i = some x.value := by
      show seqGetElementAtIndex (entries.map Entry.value) i = _
      rw [seqGetElementAtIndex_of_lt (by simpa using hlt), List.getElem_map,
        (List.getElem?_eq_some_iff.mp hi).2]
    have hfd : (s.abstract entries).fd = s.server.fd := rfl
    rw [sensorLoop, h.get hi, ok_bind, h.load hi, ok_bind, SensorGateway.sensorLoop, hget]
    dsimp only
    rw [hfd]
    generalize serveSensor timeout (input.sensor i) (s.server.fd (i + 1)).revents x.value = r
    obtain ⟨s', hstore, howns, habs⟩ := store_leads h hi r
    have hlen : (entries.set i { x with value := r.sensor }).length = entries.length :=
      List.length_set
    rw [hstore, ok_bind, habs]
    split_ifs
    · exact removeSensor_leads howns (by omega) listSize
    · exact ih howns (by omega)

/-! ## The exit -/

/-- After `connmgr_free` nothing is allocated, and every node was released once. -/
structure Freed (s : LinkedConnmgr) : Prop where
  exited : s.server.exited = true
  memory : ∀ b, s.memory.cells b = none
  released : ∃ released, s.released = some released ∧ released.Nodup ∧ .list ∈ released ∧
    ∀ a, s.list.heap.cells a ≠ none → .node a ∈ released

theorem exit_spec (h : Owns s entries) : ∃ s', s.exit = .ok s' ∧ Freed s' ∧
    s'.abstract entries = { s.abstract entries with exited := true } := by
  obtain ⟨released, hreleased, hnodup, hblocks, hlist, hnodes⟩ := h.free
  obtain ⟨memory', hfree, hgone, hframe⟩ := freeBlocks_spec h.distinct fun b hb =>
    h.toBoxed.cells_of_mem_listBlocks hb
  rw [exit, hreleased, ok_bind, hblocks, hfree, ok_bind]
  refine ⟨_, rfl, ⟨rfl, ?_, _, rfl, hnodup, hlist, hnodes⟩, rfl⟩
  intro b
  by_contra hb
  have hnotMem : b ∉ listBlocks (s.list, entries) := fun hmem => hb (hgone b hmem)
  rw [hframe b hnotMem] at hb
  exact hnotMem (h.only b hb)

/-! ## The iteration -/

/-- The connection manager over the nodes, and the one over the sequence. -/
def Represents (s : LinkedConnmgr) (c : Connmgr) : Prop :=
  ∃ entries, c = s.abstract entries ∧
    (c.exited = false ∧ Owns s entries ∨ Freed s)

theorem represents_start (sd : Nat) (fd : Nat → PollFd) (time : Int) :
    Represents (start sd fd time) (serverCreate sd fd time) :=
  ⟨[], rfl, .inl ⟨rfl, owns_start sd fd time⟩⟩

theorem sensorLoop_exited (c : Connmgr) (input : IterationInput) :
    (SensorGateway.sensorLoop timeout input c.connections.length c.connections.length 0
      (c.prepare input)).exited = c.exited := by
  obtain ⟨indices, heq, -⟩ := sensorLoop_prepare timeout c input
  rw [heq, prepare_eq]

theorem prepare_leads (h : Owns s entries) (input : IterationInput) :
    Leads (s.prepare mn m entries.length input) ((s.abstract entries).prepare input) := by
  let server := ((s.server.poll input.report (entries.length + 1)).resize entries.length).touch [0]
  have howns : Owns { s with server := server } entries := ⟨h.toOwned, h.callbacks, h.released⟩
  have hlength : (s.abstract entries).connections.length = entries.length := List.length_map _
  have hprepare : (s.abstract entries).prepare input =
      if (server.fd 0).revents.pollin then
        (abstract { s with server := server } entries).accept entries.length input.accept
          input.acceptTime
      else abstract { s with server := server } entries := by
    rw [Connmgr.prepare, hlength]
    rfl
  rw [hprepare, prepare]
  split_ifs
  · exact accept_leads mn m howns entries.length input.accept input.acceptTime
  · exact ⟨_, _, rfl, howns, rfl⟩

theorem step_leads (h : Owns s entries) (hrunning : s.server.exited = false)
    (input : IterationInput) :
    ∃ s' c', s.step timeout mn m input = some (.ok s') ∧
      SensorGateway.iterate timeout (s.abstract entries) input = some c' ∧ Represents s' c' := by
  have hlength : (s.abstract entries).connections.length = entries.length := List.length_map _
  have hrunning' : (s.abstract entries).exited = false := hrunning
  obtain ⟨s₁, entries₁, hprepare, h₁, habs⟩ := prepare_leads mn m h input
  have hle : entries.length ≤ entries₁.length := by
    have hconn := congrArg (fun c => c.connections.length) habs
    rw [prepare_eq] at hconn
    simp only [List.length_append, List.length_map, withConnections] at hconn
    omega
  have hexited := sensorLoop_exited timeout (s.abstract entries) input
  rw [step, if_neg (by simp [hrunning]), SensorGateway.iterate, if_neg (by simp [hrunning'])]
  rw [h.size, ok_bind, Int.toNat_natCast]
  dsimp only
  rw [hprepare, ok_bind, hlength, habs]
  rw [hlength, habs] at hexited
  have hlast : (s₁.abstract entries₁).lastRecord = s₁.server.lastRecord := rfl
  rw [hlast]
  split_ifs
  · obtain ⟨s', hexit, hfreed, habs'⟩ := exit_spec h₁
    exact ⟨s', _, congrArg some hexit, rfl, entries₁, habs'.symm, .inr hfreed⟩
  · obtain ⟨s', entries', hloop, howns, habs'⟩ :=
      sensorLoop_leads timeout input entries.length h₁ (by omega : 0 + entries.length ≤ _)
    refine ⟨s', _, congrArg some hloop, rfl, entries', habs', .inl ⟨?_, howns⟩⟩
    rw [hexited]
    exact hrunning

theorem Freed.step_eq_none (h : Freed s) (input : IterationInput) :
    s.step timeout mn m input = none :=
  if_pos h.exited

theorem represents_of_next (h : Represents s c) {input : IterationInput}
    (hs : next timeout mn m s input = some s') :
    ∃ b c', SensorGateway.iterate timeout c b = some c' ∧ Represents s' c' := by
  obtain ⟨entries, rfl, ⟨hrunning, howns⟩ | hfreed⟩ := h
  · obtain ⟨t, c', hstep, hiterate, hR⟩ := step_leads timeout mn m howns hrunning input
    rw [next, hstep] at hs
    obtain rfl := Option.some.inj hs
    exact ⟨input, c', hiterate, hR⟩
  · rw [next, hfreed.step_eq_none] at hs
    cases hs

/-- Over the nodes of the connection list, with any allocators and in every run: the run is one of
    the connection manager over the sequence of its connections; no iteration dereferences a pointer
    that is NULL or was freed; whatever the connection manager can do over the sequence it can do
    over the nodes; until the exit the nodes and the `sensor_socket_t`s that are allocated are those
    of the list, each connection with a block of its own; and at the exit each of them has been
    freed once, and none is left. -/
theorem linked_connmgr_refines (timeout : Int) (mn : NodeAllocator ConnectionElement)
    (m : Allocator SensorSocket) (sd : Nat) (fd : Nat → PollFd) (time : Int) (s : LinkedConnmgr)
    (h : Reach (next timeout mn m) (start sd fd time) s) :
    ∃ connections : List SensorSocket,
      Reach (SensorGateway.iterate timeout) (serverCreate sd fd time)
        (s.withConnections connections) ∧
      (∀ input fault, s.step timeout mn m input ≠ some (.error fault)) ∧
      (∀ input c', SensorGateway.iterate timeout (s.withConnections connections) input = some c' →
        ∃ s' connections', next timeout mn m s input = some s' ∧
          c' = s'.withConnections connections') ∧
      (s.server.exited = false →
        ∃ entries, entries.map Entry.value = connections ∧ Owned s.list s.memory entries) ∧
      (s.server.exited = true → Freed s) := by
  obtain ⟨c, hreach, entries, rfl, hcase⟩ := h.relates (represents_start sd fd time)
    fun s c input s' hR _ hs => represents_of_next timeout mn m hR hs
  refine ⟨entries.map Entry.value, hreach, ?_, ?_, ?_, ?_⟩
  · intro input fault hfault
    rcases hcase with ⟨hrunning, howns⟩ | hfreed
    · obtain ⟨t, c', hstep, -⟩ := step_leads timeout mn m howns hrunning input
      rw [hstep] at hfault
      cases hfault
    · rw [hfreed.step_eq_none] at hfault
      cases hfault
  · intro input c' hiterate
    rcases hcase with ⟨hrunning, howns⟩ | hfreed
    · obtain ⟨t, c'', hstep, hiterate', entries', rfl, -⟩ :=
        step_leads timeout mn m howns hrunning input
      obtain rfl := Option.some.inj (hiterate.symm.trans hiterate')
      exact ⟨t, entries'.map Entry.value, by rw [next, hstep]; rfl, rfl⟩
    · rw [SensorGateway.iterate, if_pos (by exact hfreed.exited)] at hiterate
      cases hiterate
  · intro hrunning
    rcases hcase with ⟨-, howns⟩ | hfreed
    · exact ⟨entries, rfl, howns.toOwned⟩
    · rw [hfreed.exited] at hrunning
      cases hrunning
  · intro hexited
    rcases hcase with ⟨hrunning, -⟩ | hfreed
    · rw [show (s.abstract entries).exited = s.server.exited from rfl, hexited] at hrunning
      cases hrunning
    · exact hfreed

/-- Two clients connect, both are silent for too long, and then the server stops. -/
theorem linked_connmgr_refines_sample :
    ∃ s s', run (next 5 .bump .bump) (start 3 (fun _ => ⟨0, ⟨false, false⟩, ⟨false, false⟩⟩) 0)
        [sampleInput (some 4), sampleInput (some 5), sampleLate] = some s ∧
      (∃ entries, entries.length = 1 ∧ Owned s.list s.memory entries) ∧
      run (next 5 .bump .bump) s [sampleLate, { sampleLate with idleTime := 106 }] = some s' ∧
      Freed s' := by
  obtain ⟨s, hs, hrunning, hsize⟩ : ∃ s, run (next 5 .bump .bump)
      (start 3 (fun _ => ⟨0, ⟨false, false⟩, ⟨false, false⟩⟩) 0)
      [sampleInput (some 4), sampleInput (some 5), sampleLate] = some s ∧ s.server.exited = false ∧
      dplSize s.list = .ok 1 := ⟨_, rfl, rfl, rfl⟩
  obtain ⟨s', hs', hexited⟩ : ∃ s', run (next 5 .bump .bump) s
      [sampleLate, { sampleLate with idleTime := 106 }] = some s' ∧ s'.server.exited = true := by
    obtain rfl := Option.some.inj hs
    exact ⟨_, rfl, rfl⟩
  have hreach := reachVia_of_runVia hs
  obtain ⟨connections, -, -, -, howned, -⟩ := linked_connmgr_refines 5 .bump .bump 3 _ 0 s hreach
  obtain ⟨-, -, -, -, -, hfreed⟩ :=
    linked_connmgr_refines 5 .bump .bump 3 _ 0 s' (hreach.trans (reachVia_of_runVia hs'))
  obtain ⟨entries, -, hentries⟩ := howned hrunning
  refine ⟨s, s', hs, ⟨entries, ?_, hentries⟩, hs', hfreed hexited⟩
  have hlength := Except.ok.inj (hentries.size.symm.trans hsize)
  omega

end LinkedConnmgr

end SensorGateway
