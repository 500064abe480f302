import SensorGateway.Connmgr.Proofs.LoopProofs

/-!
# What one iteration does

`iterated_of_iterate` gives every field of the state after an iteration in terms of the state before
it and of the answers of the operating system; the invariants are derived from it alone.
-/

namespace SensorGateway

variable {timeout : Int} {input : IterationInput} {s s' : Connmgr}

namespace Connmgr

/-! ## What the iteration decides on -/

/-- The server descriptor reports a connection request. -/
def accepts (s : Connmgr) (input : IterationInput) : Bool :=
  (pollEntry input.report (s.fd 0)).revents.pollin

/-- `revents` of the connection at an index after `poll`. -/
def polled (s : Connmgr) (input : IterationInput) (i : Nat) : PollEvents :=
  (pollEntry input.report (s.fd (i + 1))).revents

/-- The connection that is accepted, if any. -/
def newSensors (s : Connmgr) (input : IterationInput) : List SensorSocket :=
  if s.accepts input then [⟨firstSensorId, newSocket input.accept, input.acceptTime, s.accepted⟩]
  else []

/-- What the loop does with the connections of the list. -/
def served (timeout : Int) (s : Connmgr) (input : IterationInput) : ServedAll :=
  serveAll timeout input (s.polled input) 0 s.connections

/-- The poll table when the loop starts: polled, with the entry of the new connection. -/
def preparedFd (s : Connmgr) (input : IterationInput) (k : Nat) : PollFd :=
  if k ≤ s.connections.length then pollEntry input.report (s.fd k)
  else if s.accepts input ∧ k = s.connections.length + 1 then
    { s.fd k with fd := tcpGetSd (newSocket input.accept) (s.fd k).fd, events := .both }
  else s.fd k

/-- The test that ends `manage_connection` for want of clients. -/
def idles (timeout : Int) (s : Connmgr) (input : IterationInput) : Prop :=
  s.connections.length = 0 ∧ input.idleTime > deadline s.lastRecord timeout

/-- The number of entries of the poll table that the iteration works with. -/
def resizedCapacity (s : Connmgr) : Nat :=
  (resizeTable s.connSize s.capacity s.connections.length).2

end Connmgr

open Connmgr

/-! ## The poll table -/

theorem shiftArray_apply (fd : Nat → PollFd) (index size k : Nat) :
    shiftArray fd index size k = if index ≤ k ∧ k < size then fd (k + 1) else fd k := by
  obtain ⟨n, hn⟩ : ∃ n, size - index = n := ⟨_, rfl⟩
  rw [shiftArray, hn]
  induction n generalizing fd index with
  | zero =>
    rw [if_neg (by omega)]
    rfl
  | succ n ih =>
    rw [List.range'_succ, List.foldl_cons, ih _ _ (by omega)]
    rcases eq_or_ne k index with rfl | hne
    · rw [if_neg (by omega), if_pos (by omega), Function.update_self]
    · by_cases hk : index + 1 ≤ k ∧ k < size
      · rw [if_pos hk, if_pos (by omega), Function.update_of_ne (by omega)]
      · rw [if_neg hk, if_neg (by omega), Function.update_of_ne hne]

@[simp] theorem pollEntry_fd (report : Nat → PollEvents) (entry : PollFd) :
    (pollEntry report entry).fd = entry.fd := by
  unfold pollEntry
  split <;> rfl

@[simp] theorem pollEntry_events (report : Nat → PollEvents) (entry : PollFd) :
    (pollEntry report entry).events = entry.events := by
  unfold pollEntry
  split <;> rfl

/-- `poll` reports to an entry that asks for both events what it finds on its descriptor. -/
theorem pollEntry_revents {report : Nat → PollEvents} {entry : PollFd} {sd : Nat}
    (hfd : entry.fd = sd) (hevents : entry.events = .both) :
    (pollEntry report entry).revents = report sd := by
  unfold pollEntry
  rw [hfd]
  simp [hevents, PollEvents.both]

/-! ## Up to the loop -/

theorem seqInsertAtIndex_length_self (xs : List SensorSocket) (x : SensorSocket) :
    seqInsertAtIndex xs xs.length x = xs ++ [x] := by
  simp [seqInsertAtIndex, clampIndex]

theorem prepare_eq (s : Connmgr) (input : IterationInput) :
    s.prepare input =
      { s with
        connSize := (resizeTable s.connSize s.capacity s.connections.length).1
        capacity := s.resizedCapacity
        fd := s.preparedFd input
        connections := s.connections ++ s.newSensors input
        accepted := s.accepted + (s.newSensors input).length
        accesses := s.accesses ++ (List.range (s.connections.length + 1)).map (·, s.capacity) ++
          (0 :: if s.accepts input then [s.connections.length + 1] else []).map
            (·, s.resizedCapacity) } := by
  cases haccepts : s.accepts input with
  | false =>
    have hfd : s.preparedFd input = fun k =>
        if k < s.connections.length + 1 then pollEntry input.report (s.fd k) else s.fd k := by
      funext k
      simp [preparedFd, haccepts]
    rw [accepts] at haccepts
    simp [Connmgr.prepare, Connmgr.resize, Connmgr.poll, Connmgr.touch, newSensors, accepts,
      resizedCapacity, haccepts, hfd]
  | true =>
    have hfd : s.preparedFd input = Function.update (fun k =>
          if k < s.connections.length + 1 then pollEntry input.report (s.fd k) else s.fd k)
        (s.connections.length + 1)
        { s.fd (s.connections.length + 1) with
          fd := tcpGetSd (newSocket input.accept) (s.fd (s.connections.length + 1)).fd
          events := .both } := by
      funext k
      rcases eq_or_ne k (s.connections.length + 1) with rfl | hne
      · simp [preparedFd, haccepts]
      · simp [preparedFd, hne]
    rw [accepts] at haccepts
    simp [Connmgr.prepare, Connmgr.resize, Connmgr.poll, Connmgr.touch, Connmgr.accept, newSensors,
      accepts, resizedCapacity, haccepts, hfd, seqInsertAtIndex_length_self]

/-! ## The whole iteration -/

/-- Every field after an iteration. Of the indices used after the resize only the largest matters:
    it is one past the list as soon as a connection is accepted or removed. -/
structure Iterated (timeout : Int) (s : Connmgr) (input : IterationInput) (s' : Connmgr) :
    Prop where
  running : s.exited = false
  exited : s'.exited = true ↔ idles timeout s input
  connections : s'.connections = (s.served timeout input).sensors ++ s.newSensors input
  log : s'.log = s.log ++ (s.served timeout input).events
  fd : s'.fd = shiftRemoved (s.preparedFd input) s.connections.length
    (s.served timeout input).removed
  socket : s'.socket = s.socket
  accepted : s'.accepted = s.accepted + (s.newSensors input).length
  connSize : s'.connSize = (resizeTable s.connSize s.capacity s.connections.length).1
  capacity : s'.capacity = s.resizedCapacity
  accesses : ∃ indices : List Nat,
    s'.accesses = s.accesses ++ (List.range (s.connections.length + 1)).map (·, s.capacity) ++
        indices.map (·, s'.capacity) ∧
      (∀ k ∈ indices, k ≤ s.connections.length + 1) ∧
      (s.accepts input = true ∨ (s.served timeout input).removed ≠ none →
        s.connections.length + 1 ∈ indices) ∧
      (s.accepts input = false → (s.served timeout input).removed = none →
        ∀ k ∈ indices, k ≤ s.connections.length)

theorem serveAll_congr {revents revents' : Nat → PollEvents} {cs : List SensorSocket} {i : Nat}
    (h : ∀ k, k < i + cs.length → revents k = revents' k) :
    serveAll timeout input revents i cs = serveAll timeout input revents' i cs := by
  induction cs generalizing i with
  | nil => rfl
  | cons sensor rest ih =>
    rw [List.length_cons] at h
    simp only [serveAll]
    rw [h i (by omega), ih fun k hk => h k (by omega)]

/-- The loop tests the polled `revents`. -/
theorem serveAll_prepare (timeout : Int) (s : Connmgr) (input : IterationInput) :
    serveAll timeout input (s.prepare input).reventsAt 0 s.connections =
      s.served timeout input := by
  refine serveAll_congr ?_
  intro k hk
  rw [Connmgr.reventsAt, prepare_eq]
  simp only [preparedFd]
  rw [if_pos (by omega)]
  rfl

theorem sensorLoop_prepare (timeout : Int) (s : Connmgr) (input : IterationInput) :
    ∃ indices : List Nat,
      sensorLoop timeout input s.connections.length s.connections.length 0 (s.prepare input) =
        { s.prepare input with
          connections := (s.served timeout input).sensors ++ s.newSensors input
          lastRecord := (s.served timeout input).lastRecord.getD s.lastRecord
          log := s.log ++ (s.served timeout input).events
          fd := shiftRemoved (s.preparedFd input) s.connections.length
            (s.served timeout input).removed
          accesses := (s.prepare input).accesses ++ indices.map (·, s.resizedCapacity) } ∧
      ((s.served timeout input).removed = none → ∀ k ∈ indices, k ≤ s.connections.length) ∧
      ((s.served timeout input).removed ≠ none → s.connections.length + 1 ∈ indices) ∧
      (∀ k ∈ indices, k ≤ s.connections.length + 1) := by
  have hloop := sensorLoop_eq timeout input (s.prepare input) [] s.connections (s.newSensors input)
    (by rw [prepare_eq]; rfl) (Nat.zero_add _)
  rw [List.length_nil, serveAll_prepare] at hloop
  obtain ⟨indices, heq, hnone, hsome, hle⟩ := hloop
  refine ⟨indices, ?_, hnone, hsome, hle⟩
  rw [heq]
  simp [prepare_eq]

/-- The state after an iteration is the one after the loop: on an idle server the loop does
    nothing. -/
theorem iterate_eq_some (h : iterate timeout s input = some s') :
    s.exited = false ∧ ∃ exited : Bool, (exited = true ↔ idles timeout s input) ∧
      s' = { sensorLoop timeout input s.connections.length s.connections.length 0
        (s.prepare input) with
        exited := exited } := by
  have hlast : (s.prepare input).lastRecord = s.lastRecord := by rw [prepare_eq]
  simp only [iterate] at h
  split_ifs at h with hexited hidle
  · obtain rfl := Option.some.inj h
    rw [hlast] at hidle
    refine ⟨by simpa using hexited, true, by simpa [idles] using hidle, ?_⟩
    rw [hidle.1]
    rfl
  · obtain rfl := Option.some.inj h
    rw [hlast] at hidle
    obtain ⟨indices, heq, -⟩ := sensorLoop_prepare timeout s input
    refine ⟨by simpa using hexited, false, by simpa [idles] using hidle, ?_⟩
    rw [heq]
    simp [prepare_eq, hexited]

/-- While `manage_connection` runs, every iteration is enabled. -/
theorem exists_iterate (hrunning : s.exited = false) (timeout : Int) (input : IterationInput) :
    ∃ s', iterate timeout s input = some s' := by
  unfold iterate
  rw [if_neg (by simp [hrunning])]
  dsimp only
  split_ifs
  · exact ⟨_, rfl⟩
  · exact ⟨_, rfl⟩

theorem iterated_of_iterate (h : iterate timeout s input = some s') :
    Iterated timeout s input s' := by
  obtain ⟨hrunning, exited, hidle, rfl⟩ := iterate_eq_some h
  obtain ⟨indices, heq, hnone, hsome, hle⟩ := sensorLoop_prepare timeout s input
  rw [heq]
  refine
    { running := hrunning
      exited := hidle
      connections := rfl
      log := rfl
      fd := rfl
      socket := by simp [prepare_eq]
      accepted := by simp [prepare_eq]
      connSize := by simp [prepare_eq]
      capacity := by simp [prepare_eq]
      accesses := ⟨(0 :: if s.accepts input then [s.connections.length + 1] else []) ++ indices,
        by simp [prepare_eq], ?_, ?_, ?_⟩ }
  · intro k hk
    rcases List.mem_append.mp hk with hk | hk
    · split_ifs at hk <;> simp at hk <;> omega
    · exact hle k hk
  · rintro (haccepts | hremoved)
    · simp [haccepts]
    · exact List.mem_append_right _ (hsome hremoved)
  · intro haccepts hremoved k hk
    rw [haccepts] at hk
    rcases List.mem_append.mp hk with hk | hk
    · simp at hk
      omega
    · exact hnone hremoved k hk

end SensorGateway
