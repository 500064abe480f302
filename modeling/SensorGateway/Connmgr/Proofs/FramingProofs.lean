import SensorGateway.Connmgr.Proofs.HistoryProofs
import SensorGateway.Connmgr.Proofs.WireProofs

/-!
# The framing of the streams over whole runs

Every connection carries the measurements of a sensor node up to some point. As long as each record
that counts as complete has arrived whole, the measurements inserted for a connection are the
complete records of what was taken from it; the first record that does not arrive whole breaks this.
-/

namespace SensorGateway

open Transition Connmgr

variable {timeout : Int} {input : IterationInput} {s s' : Connmgr} {ms : Nat → List Measurement}
  {cut : Nat → Nat}

/-- The stream of the sensor node behind a connection: it sends `ms`, and ends after `cut` bytes. -/
def nodeStream (ms : Nat → List Measurement) (cut : Nat → Nat) (serial : Nat) : List UInt8 :=
  (wireBytes (ms serial)).take (cut serial)

/-- What `recv` hands out in an iteration is what is ahead in the streams. -/
def HandsOutStreams (timeout : Int) (ms : Nat → List Measurement) (cut : Nat → Nat) (s : Connmgr)
    (input : IterationInput) : Prop :=
  ∀ k sensor, s.connections[k]? = some sensor → s.ReadsAt timeout input k →
    ∃ rest', RecordHandsOut ((nodeStream ms cut sensor.serial).drop
      (receivedOf sensor.serial s.log).length) (input.sensor k).record rest'

/-- The measurements inserted for each connection are the complete records of what was taken from
    it. -/
def Framed (ms : Nat → List Measurement) (s : Connmgr) : Prop :=
  ∀ serial, insertedOf serial s.log =
    (ms serial).take ((receivedOf serial s.log).length / recordSize)

/-- Every record that is read, and whose last `recv` returns bytes, arrives whole. -/
def ReadsWhole (timeout : Int) (s : Connmgr) (input : IterationInput) : Prop :=
  ∀ k sensor, s.connections[k]? = some sensor → s.ReadsAt timeout input k →
    sensor.socket ≠ none → (input.sensor k).record.ts.bytes ≠ [] → (input.sensor k).record.Whole

/-- The invariant of the runs whose records arrive whole. -/
structure FramedRun (ms : Nat → List Measurement) (cut : Nat → Nat) (s : Connmgr) : Prop where
  numbered : Numbered s
  streams : ∀ serial,
    FramedStream (ms serial) (cut serial) (receivedOf serial s.log) (insertedOf serial s.log)

theorem framedRun_of_iterated (h : FramedRun ms cut s) (hit : Iterated timeout s input s')
    (hout : HandsOutStreams timeout ms cut s input) (hwhole : ReadsWhole timeout s input) :
    FramedRun ms cut s' := by
  refine ⟨numbered_of_iterated h.numbered hit, ?_⟩
  intro serial
  rcases hit.history h.numbered serial with ⟨hreceived, hinserted⟩ | ⟨k, sensor, hk, rfl, hreads⟩
  · rw [hreceived, hinserted]
    exact h.streams serial
  · obtain ⟨hreceived, hinserted⟩ := hit.history_of_readsAt h.numbered hk hreads
    obtain ⟨rest', hrest⟩ := hout k sensor hk hreads
    rw [hreceived, hinserted]
    exact (h.streams sensor.serial).read sensor.socket hrest (hwhole k sensor hk hreads)

theorem not_framed_of_iterated (h : FramedRun ms cut s) (hit : Iterated timeout s input s')
    (hout : HandsOutStreams timeout ms cut s input) (hwhole : ¬ ReadsWhole timeout s input) :
    ¬ Framed ms s' := by
  unfold ReadsWhole at hwhole
  push Not at hwhole
  obtain ⟨k, sensor, hk, hreads, hsocket, hts, hpart⟩ := hwhole
  obtain ⟨sd, hsd⟩ := Option.ne_none_iff_exists'.mp hsocket
  obtain ⟨hreceived, hinserted⟩ := hit.history_of_readsAt h.numbered hk hreads
  obtain ⟨rest', hrest⟩ := hout k sensor hk hreads
  rw [hsd] at hreceived hinserted
  intro hframed
  have hx := hframed sensor.serial
  rw [hreceived, hinserted] at hx
  exact (h.streams sensor.serial).not_inserted sd hrest hts hpart hx

/-- Whatever the sensor nodes send, wherever their streams end and however `recv` hands them out: in
    every state of a run the inserted measurements are the complete records of what was taken from
    the streams, if and only if every record that counts as complete arrives whole. -/
theorem framed_iff_reads_whole (timeout : Int) (ms : Nat → List Measurement) (cut : Nat → Nat)
    (sd : Nat) (fd : Nat → PollFd) (time : Int) (inputs : List IterationInput)
    (hout : Meets (iterate timeout) (HandsOutStreams timeout ms cut) (serverCreate sd fd time)
      inputs) :
    Along (iterate timeout) (Framed ms) (serverCreate sd fd time) inputs ↔
      Meets (iterate timeout) (ReadsWhole timeout) (serverCreate sd fd time) inputs := by
  have hinit : FramedRun ms cut (serverCreate sd fd time) :=
    ⟨numbered_serverCreate sd fd time, fun serial => framedStream_nil (ms serial) (cut serial)⟩
  refine along_iff_meets ?_ ?_ ?_ hinit hout
  · intro s h serial
    exact (h.streams serial).inserted_eq
  · intro s input s' h hout hwhole hs
    exact framedRun_of_iterated h (iterated_of_iterate hs) hout hwhole
  · intro s input s' h hout hwhole hs
    exact not_framed_of_iterated h (iterated_of_iterate hs) hout hwhole

/-- An iteration in which the client with descriptor 4 is readable, and the three `recv` calls for
    its record hand out these bytes. -/
def sampleRead (hangup : Bool) (id value ts : List UInt8) : IterationInput :=
  { sampleInput none with
    report := fun sd => ⟨sd = 4, sd = 4 && hangup⟩
    sensor := fun _ =>
      { record := ⟨.received id, .received value, .received ts, fun _ => 0, fun _ => 0, fun _ => 0⟩
        now := 0
        closeTime := 0 } }

/-- The state after the client with descriptor 4 has connected. -/
def sampleConnected : Connmgr := (iterate 5 sampleServer (sampleInput (some 4))).get rfl

theorem iterate_sampleServer :
    iterate 5 sampleServer (sampleInput (some 4)) = some sampleConnected := rfl

theorem sampleConnected_getElem? {k : Nat} {sensor : SensorSocket}
    (h : sampleConnected.connections[k]? = some sensor) : k = 0 ∧ sensor = ⟨0, some 4, 0, 0⟩ := by
  have hconn : sampleConnected.connections = [⟨0, some 4, 0, 0⟩] := rfl
  rw [hconn] at h
  cases k with
  | zero => exact ⟨rfl, by simpa using h.symm⟩
  | succ k => simp at h

def sampleMeasurement : Measurement := ⟨258, 772, 1286⟩

/-- Its bytes may be handed out in any three pieces from the left. -/
theorem sampleRead_handsOut {hangup : Bool} {id value ts : List UInt8} (rest : List UInt8)
    (hstream : sampleMeasurement.bytes = id ++ value ++ ts ++ rest)
    (hlen : 0 < id.length ∧ id.length ≤ 2 ∧ 0 < value.length ∧ value.length ≤ 8 ∧
      0 < ts.length ∧ ts.length ≤ 8) :
    HandsOutStreams 5 (fun _ => [sampleMeasurement]) (fun _ => recordSize) sampleConnected
      (sampleRead hangup id value ts) := by
  intro k sensor hk _
  obtain ⟨rfl, rfl⟩ := sampleConnected_getElem? hk
  have hahead : (nodeStream (fun _ => [sampleMeasurement]) (fun _ => recordSize) 0).drop
      (receivedOf 0 sampleConnected.log).length = id ++ (value ++ (ts ++ rest)) := by
    rw [← List.append_assoc, ← List.append_assoc, ← hstream]
    decide
  refine ⟨rest, value ++ (ts ++ rest), ts ++ rest, ⟨id, rfl, hahead, by omega, ?_⟩,
    ⟨value, rfl, rfl, by omega, ?_⟩, ⟨ts, rfl, rfl, by omega, ?_⟩⟩
  all_goals
    rintro rfl
    simp at hlen

/-- A record that arrives whole. -/
theorem framed_iff_reads_whole_sample :
    Along (iterate 5) (Framed fun _ => [sampleMeasurement]) sampleServer
      [sampleInput (some 4), sampleRead false [2, 1] [4, 3, 0, 0, 0, 0, 0, 0]
        [6, 5, 0, 0, 0, 0, 0, 0]] := by
  have hout : Meets (iterate 5) (HandsOutStreams 5 (fun _ => [sampleMeasurement])
      fun _ => recordSize) sampleServer
      [sampleInput (some 4), sampleRead false [2, 1] [4, 3, 0, 0, 0, 0, 0, 0]
        [6, 5, 0, 0, 0, 0, 0, 0]] := by
    rw [meets_cons iterate_sampleServer]
    refine ⟨by simp [HandsOutStreams, sampleServer, serverCreate], fun s _ => ⟨?_, trivial⟩⟩
    exact sampleRead_handsOut [] (by decide) (by decide)
  refine (framed_iff_reads_whole 5 _ _ 3 _ 0 _ hout).mpr ?_
  refine (meets_cons iterate_sampleServer).mpr
    ⟨by simp [ReadsWhole, sampleServer, serverCreate], fun s _ => ⟨?_, trivial⟩⟩
  intro k sensor _ _ _ _
  exact ⟨rfl, rfl, rfl⟩

/-- When the first `recv` hands out one byte of the sensor id, a measurement is inserted that was
    never sent, though only 17 bytes were taken. -/
theorem framed_fails :
    ∃ inputs, Meets (iterate 5) (HandsOutStreams 5 (fun _ => [sampleMeasurement])
        fun _ => recordSize) sampleServer inputs ∧
      ∃ s, run (iterate 5) sampleServer inputs = some s ∧
        (receivedOf 0 s.log).length = 17 ∧
        insertedOf 0 s.log = [⟨2, 197633, 329216⟩] ∧ ¬ Framed (fun _ => [sampleMeasurement]) s := by
  refine ⟨[sampleInput (some 4), sampleRead false [2] [1, 4, 3, 0, 0, 0, 0, 0]
    [0, 6, 5, 0, 0, 0, 0, 0]], ?_, _, rfl, by decide, by decide, ?_⟩
  · refine (meets_cons iterate_sampleServer).mpr
      ⟨by simp [HandsOutStreams, sampleServer, serverCreate], fun s _ => ⟨?_, trivial⟩⟩
    exact sampleRead_handsOut [0] (by decide) (by decide)
  · intro hframed
    exact absurd (hframed 0) (by decide)

end SensorGateway
