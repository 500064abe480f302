import SensorGateway.Connmgr.Proofs.HangupProofs

/-!
# What is left unread when a client hangs up

Here the clients write whole records and `recv` hands out all that it is asked for when it is
pending. A connection that hangs up is read at most once more before it is closed, so that the
measurements of its client have all been inserted by then exactly when at most one record was left.
-/

namespace SensorGateway

open Transition Connmgr

variable {timeout : Int} {input : IterationInput} {s s' : Connmgr} {ms : Nat → List Measurement}

/-! ## The stream of one client -/

/-- Of a client that writes the measurements `ms`, whole records were taken and each was
    inserted. -/
structure WholeStream (ms : List Measurement) (consumed : List UInt8)
    (inserted : List Measurement) : Prop where
  consumed_eq : consumed = wireBytes inserted
  inserted_isPrefix : inserted <+: ms

theorem wholeStream_nil (ms : List Measurement) : WholeStream ms [] [] where
  consumed_eq := rfl
  inserted_isPrefix := List.nil_prefix

section Stream

variable {sent written : List Measurement} {consumed pending pending' : List UInt8}
  {inserted : List Measurement} {record : RecordInput} {socket : Option Nat}

/-- What is pending are the records that were written and not inserted yet. -/
theorem WholeStream.left (h : WholeStream sent consumed inserted) (hwritten : written <+: sent)
    (hpending : wireBytes written = consumed ++ pending) :
    ∃ left, written = inserted ++ left ∧ pending = wireBytes left := by
  have hlen : inserted.length ≤ written.length := by
    have := congrArg List.length hpending
    rw [List.length_append, h.consumed_eq, wireBytes_length, wireBytes_length] at this
    exact Nat.le_of_mul_le_mul_left (by omega : recordSize * _ ≤ recordSize * _) (by decide)
  obtain ⟨left, rfl⟩ := List.prefix_of_prefix_length_le h.inserted_isPrefix hwritten hlen
  refine ⟨left, rfl, ?_⟩
  rw [h.consumed_eq, wireBytes_append] at hpending
  exact (List.append_cancel_left hpending).symm

/-- Reading takes and inserts the next record that was written, if there is one. -/
theorem WholeStream.read (h : WholeStream sent consumed inserted) (sd : Nat)
    (hwritten : written <+: sent) (hpending : wireBytes written = consumed ++ pending)
    (hout : RecordHandsOutFull pending record pending') :
    let r := readRecord (some sd) record
    let inserted' := inserted ++ if r.complete then [r.data] else []
    WholeStream sent (consumed ++ r.consumed) inserted' ∧
      inserted' = written.take (inserted.length + 1) := by
  intro r inserted'
  obtain ⟨left, rfl, rfl⟩ := h.left hwritten hpending
  obtain ⟨hrest, -, hsize, hend⟩ := hout.handsOut.taken
  have hconsumed : r.consumed = record.taken := readRecord_consumed sd record
  cases left with
  | nil =>
    obtain ⟨htaken, -⟩ := List.append_eq_nil_iff.mp hrest.symm
    have hts : record.ts.bytes = [] := (List.append_eq_nil_iff.mp htaken).2
    have hcomplete : r.complete = false := by
      simpa [hts] using (readRecord_complete sd record).not
    have hinserted : inserted' = inserted := by simp [inserted', hcomplete]
    rw [hinserted, hconsumed, htaken, List.append_nil]
    exact ⟨h, by simp⟩
  | cons m left =>
    have hwhole : record.Whole := hout.whole <| by
      rw [wireBytes_length, List.length_cons]
      exact Nat.le_mul_of_pos_right recordSize (Nat.succ_pos _)
    obtain ⟨htaken, hdata⟩ := readRecord_head sd hout.handsOut hwhole
    have hcomplete : r.complete = true := (readRecord_complete sd record).mpr fun hts => by
      simp [RecordInput.Whole, hts] at hwhole
    have hinserted : inserted' = inserted ++ [m] := by simp [inserted', hcomplete, r, hdata]
    rw [hinserted, hconsumed, htaken]
    refine ⟨⟨by simp [h.consumed_eq, wireBytes], ?_⟩, by simp [List.take_append]⟩
    exact List.IsPrefix.trans ⟨left, by simp⟩ hwritten

/-- At most `n` records are left exactly when the first `n` behind those inserted are all. -/
theorem WholeStream.left_le_iff (h : WholeStream sent consumed inserted) (n : Nat) :
    (wireBytes sent).length - consumed.length ≤ recordSize * n ↔
      sent.take (inserted.length + n) = sent := by
  rw [h.consumed_eq, wireBytes_length, wireBytes_length, List.take_eq_self_iff]
  unfold recordSize
  omega

end Stream

/-! ## Runs of the connection manager -/

/-- By the time a record is read the client has written whole records, all of them if it has hung
    up, and `recv` hands out as many bytes as it is asked for when that many are pending. -/
def ReadsPending (timeout : Int) (ms : Nat → List Measurement) (s : Connmgr)
    (input : IterationInput) : Prop :=
  ∀ k sensor, s.connections[k]? = some sensor → s.ReadsAt timeout input k →
    ∃ written pending pending', written <+: ms sensor.serial ∧
      ((s.polled input k).pollrdhup = true → written = ms sensor.serial) ∧
      wireBytes written = receivedOf sensor.serial s.log ++ pending ∧
      RecordHandsOutFull pending (input.sensor k).record pending'

/-- The records that one iteration can read of a connection. -/
def readable (revents : PollEvents) (sensor : SensorSocket) : Nat :=
  if revents.pollin ∧ sensor.socket ≠ none then 1 else 0

/-- Of a connection that hangs up no more is left than the iteration can read. -/
def LeavesDrained (timeout : Int) (ms : Nat → List Measurement) (s : Connmgr)
    (input : IterationInput) : Prop :=
  ∀ k sensor, s.connections[k]? = some sensor → s.HangsUpAt timeout input k →
    (wireBytes (ms sensor.serial)).length - (receivedOf sensor.serial s.log).length ≤
      recordSize * readable (s.polled input k) sensor

/-- The invariant: whole records are taken, and each is inserted. -/
structure WholeRun (ms : Nat → List Measurement) (s : Connmgr) : Prop where
  numbered : Numbered s
  streams : ∀ serial,
    WholeStream (ms serial) (receivedOf serial s.log) (insertedOf serial s.log)

/-- What an iteration that reads a connection takes and inserts. -/
theorem WholeRun.read (h : WholeRun ms s) (hit : Iterated timeout s input s')
    (hread : ReadsPending timeout ms s input) {k : Nat} {sensor : SensorSocket}
    (hk : s.connections[k]? = some sensor) (hreads : s.ReadsAt timeout input k) :
    WholeStream (ms sensor.serial) (receivedOf sensor.serial s'.log)
        (insertedOf sensor.serial s'.log) ∧
      ((s.polled input k).pollrdhup = true → sensor.socket ≠ none →
        insertedOf sensor.serial s'.log =
          (ms sensor.serial).take ((insertedOf sensor.serial s.log).length + 1)) ∧
      (sensor.socket = none → insertedOf sensor.serial s'.log =
        insertedOf sensor.serial s.log) := by
  obtain ⟨hreceived, hinserted⟩ := hit.history_of_readsAt h.numbered hk hreads
  obtain ⟨written, pending, pending', hwritten, hall, hpending, hout⟩ := hread k sensor hk hreads
  rw [hreceived, hinserted]
  cases hsocket : sensor.socket with
  | none =>
    obtain ⟨hconsumed, hcomplete⟩ := readRecord_none (input.sensor k).record
    rw [hconsumed, hcomplete, if_neg Bool.false_ne_true, List.append_nil, List.append_nil]
    refine ⟨h.streams sensor.serial, ?_, fun _ => rfl⟩
    intro _ hne
    exact absurd rfl hne
  | some sd =>
    obtain ⟨hstream, htake⟩ := (h.streams sensor.serial).read sd hwritten hpending hout
    refine ⟨hstream, ?_, ?_⟩
    · intro hup _
      rw [htake, hall hup]
    · intro hnone
      simp at hnone

theorem wholeRun_of_iterated (h : WholeRun ms s) (hit : Iterated timeout s input s')
    (hread : ReadsPending timeout ms s input) : WholeRun ms s' := by
  refine ⟨numbered_of_iterated h.numbered hit, ?_⟩
  intro serial
  rcases hit.history h.numbered serial with ⟨hreceived, hinserted⟩ | ⟨k, sensor, hk, rfl, hreads⟩
  · rw [hreceived, hinserted]
    exact h.streams serial
  · exact (h.read hit hread hk hreads).1

/-- A connection that hangs up has inserted, besides what it had before, the record it could
    read. -/
theorem WholeRun.inserted_of_hangsUp (h : WholeRun ms s) (hit : Iterated timeout s input s')
    (hread : ReadsPending timeout ms s input) {k : Nat} {sensor : SensorSocket}
    (hk : s.connections[k]? = some sensor) (hhangs : s.HangsUpAt timeout input k) :
    insertedOf sensor.serial s'.log = (ms sensor.serial).take
      ((insertedOf sensor.serial s.log).length + readable (s.polled input k) sensor) := by
  have hup : (s.polled input k).pollrdhup = true := by simpa using hhangs.1
  have hold : insertedOf sensor.serial s.log =
      (ms sensor.serial).take (insertedOf sensor.serial s.log).length :=
    List.prefix_iff_eq_take.mp (h.streams sensor.serial).inserted_isPrefix
  by_cases hin : (s.polled input k).pollin = true
  · have hreads : s.ReadsAt timeout input k := ⟨by simpa using hin, hhangs.2⟩
    obtain ⟨-, hnext, hnone⟩ := h.read hit hread hk hreads
    by_cases hsocket : sensor.socket = none
    · simpa [readable, hsocket, hnone hsocket] using hold
    · simpa [readable, hsocket, hin] using hnext hup hsocket
  · have hsame : insertedOf sensor.serial s'.log = insertedOf sensor.serial s.log := by
      rcases hit.history h.numbered sensor.serial with ⟨-, hinserted⟩ | ⟨j, c, hj, hserial, hreads⟩
      · exact hinserted
      · -- the serial is that of one connection only
        have hinj := h.numbered.serial_inj hj hk hserial
        exact absurd (by simpa [hinj] using hreads.1) hin
    simpa [readable, hin, hsame] using hold

/-- An iteration keeps everything delivered exactly when what hangs up in it is drained. -/
theorem WholeRun.delivered_iff (h : WholeRun ms s) (hit : Iterated timeout s input s')
    (hread : ReadsPending timeout ms s input) :
    Delivered ms s'.log ↔ Delivered ms s.log ∧ LeavesDrained timeout ms s input := by
  rw [hit.delivered_iff]
  refine and_congr_right fun _ => forall₄_congr fun k sensor hk hhangs => ?_
  rw [h.inserted_of_hangsUp hit hread hk hhangs, (h.streams sensor.serial).left_le_iff]

/-- Whatever the clients write and however their connections are scheduled: along a run, every
    connection that is closed because its client hung up has inserted all the measurements of the
    client, if and only if no more than one record was left when it hung up. -/
theorem delivered_iff_leaves_drained (timeout : Int) (ms : Nat → List Measurement) (sd : Nat)
    (fd : Nat → PollFd) (time : Int) (inputs : List IterationInput)
    (hread : Meets (iterate timeout) (ReadsPending timeout ms) (serverCreate sd fd time) inputs) :
    Along (iterate timeout) (fun s => Delivered ms s.log) (serverCreate sd fd time) inputs ↔
      Meets (iterate timeout) (LeavesDrained timeout ms) (serverCreate sd fd time) inputs := by
  refine along_iff_meets (I := fun s => WholeRun ms s ∧ Delivered ms s.log) (fun _ h => h.2)
    ?_ ?_ ⟨⟨numbered_serverCreate sd fd time, fun serial => wholeStream_nil (ms serial)⟩,
      delivered_nil ms⟩ hread
  · rintro s input s' ⟨hrun, hdelivered⟩ hread hdrained hs
    have hit := iterated_of_iterate hs
    exact ⟨wholeRun_of_iterated hrun hit hread,
      (hrun.delivered_iff hit hread).mpr ⟨hdelivered, hdrained⟩⟩
  · rintro s input s' ⟨hrun, -⟩ hread hdrained hs hdelivered
    exact hdrained ((hrun.delivered_iff (iterated_of_iterate hs) hread).mp hdelivered).2

/-- The client with descriptor 4 has hung up, and a record of it is read. -/
def sampleLast : IterationInput :=
  sampleRead true [2, 1] [4, 3, 0, 0, 0, 0, 0, 0] [6, 5, 0, 0, 0, 0, 0, 0]

/-- The client has written a measurement and then those in `left`, all of them before the first
    `poll`. -/
theorem sampleLast_readsPending (left : List Measurement) :
    Meets (iterate 5) (ReadsPending 5 fun _ => sampleMeasurement :: left) sampleServer
      [sampleInput (some 4), sampleLast] := by
  refine (meets_cons iterate_sampleServer).mpr
    ⟨by simp [ReadsPending, sampleServer, serverCreate], fun s _ => ⟨?_, trivial⟩⟩
  intro k sensor hk _
  obtain ⟨rfl, rfl⟩ := sampleConnected_getElem? hk
  refine ⟨sampleMeasurement :: left, sampleMeasurement.bytes ++ wireBytes left, wireBytes left,
    List.prefix_rfl, fun _ => rfl, rfl, _, _, ⟨⟨[2, 1], rfl, rfl, le_rfl, by simp⟩, fun _ => rfl⟩,
    ⟨⟨[4, 3, 0, 0, 0, 0, 0, 0], rfl, rfl, le_rfl, by simp⟩, fun _ => rfl⟩,
    ⟨⟨[6, 5, 0, 0, 0, 0, 0, 0], rfl, rfl, le_rfl, by simp⟩, fun _ => rfl⟩⟩

/-- One measurement was left. -/
theorem delivered_iff_leaves_drained_sample :
    Along (iterate 5) (fun s => Delivered (fun _ => [sampleMeasurement]) s.log) sampleServer
      [sampleInput (some 4), sampleLast] := by
  refine (delivered_iff_leaves_drained 5 _ 3 _ 0 _ (sampleLast_readsPending [])).mpr ?_
  refine (meets_cons iterate_sampleServer).mpr
    ⟨by simp [LeavesDrained, sampleServer, serverCreate], fun s _ => ⟨?_, trivial⟩⟩
  intro k sensor hk _
  obtain ⟨rfl, rfl⟩ := sampleConnected_getElem? hk
  decide

/-- Two measurements were left: the second one is dropped. -/
theorem delivered_fails :
    Meets (iterate 5) (ReadsPending 5 fun _ => [sampleMeasurement, ⟨258, 772, 1287⟩]) sampleServer
        [sampleInput (some 4), sampleLast] ∧
      ∃ s, run (iterate 5) sampleServer [sampleInput (some 4), sampleLast] = some s ∧
        .closed 0 258 ∈ s.log ∧ insertedOf 0 s.log = [sampleMeasurement] ∧ s.connections = [] ∧
        ¬ Delivered (fun _ => [sampleMeasurement, ⟨258, 772, 1287⟩]) s.log := by
  refine ⟨sampleLast_readsPending _, _, rfl, by decide, by decide, rfl, ?_⟩
  intro hdelivered
  have hinserted := hdelivered [.tested 0 .both, .received 0 sampleMeasurement.bytes,
    .inserted 0 sampleMeasurement, .opened 0 258] [] 0 258 (by decide)
  exact absurd hinserted (by decide)

end SensorGateway
