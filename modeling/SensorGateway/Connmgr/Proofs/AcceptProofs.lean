import SensorGateway.Connmgr.Proofs.IdleProofs

/-!
# An accept that fails

The result of `tcp_wait_for_connection` is not looked at: a failed accept appends a connection to
the list all the same, with what the stack holds for a socket. It is tested, timed out, closed and
logged as the others are.
-/

namespace SensorGateway

open Transition Connmgr

variable {timeout : Int} {input : IterationInput} {s s' : Connmgr}

/-- What a failed accept should do: the list and the polled entries of the server and the existing
    connections stay, and nothing is ever done for a connection that was not established. -/
structure AcceptFailsQuietly (timeout : Int) (s : Connmgr) (input : IterationInput) : Prop where
  connections : (s.prepare input).connections = s.connections
  entries : ∀ k ≤ s.connections.length, (s.prepare input).fd k = pollEntry input.report (s.fd k)
  silent : ∀ inputs s', run (iterate timeout) s (input :: inputs) = some s' →
    ∀ e ∈ s'.log.drop s.log.length, e.serial ≠ s.accepted

/-- The connection that is made up when the accept fails. -/
def phantom (s : Connmgr) (input : IterationInput) (stale : Option Nat) : SensorSocket :=
  ⟨firstSensorId, stale, input.acceptTime, s.accepted⟩

/-! ## The step for the connection request -/

theorem newSensors_of_error {stale : Option Nat} (haccepts : s.accepts input = true)
    (herror : input.accept = .error stale) : s.newSensors input = [phantom s input stale] := by
  unfold newSensors
  rw [if_pos haccepts, herror]
  rfl

theorem prepare_connections_of_error {stale : Option Nat} (haccepts : s.accepts input = true)
    (herror : input.accept = .error stale) :
    (s.prepare input).connections = s.connections ++ [phantom s input stale] := by
  rw [prepare_eq, newSensors_of_error haccepts herror]

/-- The entries up to the last existing connection are only polled. -/
theorem prepare_fd {k : Nat} (hk : k ≤ s.connections.length) :
    (s.prepare input).fd k = pollEntry input.report (s.fd k) := by
  rw [prepare_eq]
  exact if_pos hk

/-! ## What becomes of the phantom -/

/-- Nothing is reported, and the timeout tests read the clock so that exactly the last connection is
    too old. -/
def outlast (timeout : Int) (s : Connmgr) (last : SensorSocket) : IterationInput where
  report := fun _ => ⟨false, false⟩
  accept := .error none
  acceptTime := 0
  idleTime := 0
  sensor := fun k =>
    { record := ⟨.failed false, .failed false, .failed false, fun _ => 0, fun _ => 0, fun _ => 0⟩
      now :=
        if k + 1 < s.connections.length then
          deadline (s.connections[k]?.getD last).lastRecord timeout
        else deadline last.lastRecord timeout + 1
      closeTime := 0 }

theorem polled_outlast (s t : Connmgr) (last : SensorSocket) (k : Nat) :
    s.polled (outlast timeout t last) k = ⟨false, false⟩ := by
  unfold polled pollEntry
  split
  · simp [outlast]
  · rfl

/-- The last connection of a list can be made to time out while the others stay. -/
theorem leaves_outlast_iff {pre : List SensorSocket} {last sensor : SensorSocket} {k : Nat}
    (hs : s.connections = pre ++ [last]) (hk : s.connections[k]? = some sensor) :
    Leaves timeout ((outlast timeout s last).sensor k)
      (s.polled (outlast timeout s last) k) sensor ↔
      k = pre.length := by
  have hlen : s.connections.length = pre.length + 1 := by rw [hs, List.length_append]; rfl
  have hklt : k < pre.length + 1 := hlen ▸ (List.getElem?_eq_some_iff.mp hk).1
  unfold Leaves lastHeard
  rw [polled_outlast]
  simp only [outlast, Bool.false_eq_true, false_and, if_false, false_or]
  by_cases hlast : k = pre.length
  · have hsensor : sensor = last := by
      rw [hs, hlast, List.getElem?_concat_length] at hk
      exact (Option.some.inj hk).symm
    rw [if_neg (by omega), hsensor]
    exact iff_of_true (by omega) hlast
  · rw [if_pos (by omega), hk]
    exact iff_of_false (by simp) hlast

/-- In such an iteration the last connection is closed. -/
theorem closedIn_outlast {pre : List SensorSocket} {last : SensorSocket}
    (hs : s.connections = pre ++ [last]) :
    ClosedIn last.serial (s.served timeout (outlast timeout s last)).events := by
  have hget : s.connections[pre.length]? = some last := by rw [hs, List.getElem?_concat_length]
  have hleaves := @leaves_outlast_iff timeout s pre last
  apply @serveAll_closedIn timeout (outlast timeout s last) _ 0 pre.length
  · rcases serveAll_spec timeout (outlast timeout s last) (s.polled (outlast timeout s last)) 0
      s.connections with ⟨hnone, -⟩ | ⟨k, sensor, hsome, hk, hleavesk, -⟩
    · have hremoved := serveAll_removed_ne_none.mpr ⟨pre.length, last, hget, by
        rw [Nat.zero_add]
        exact (hleaves hs hget).mpr rfl⟩
      exact absurd hnone hremoved
    · rw [Nat.zero_add] at hleavesk
      rw [hsome, (hleaves hs hk).mp hleavesk]
  · exact hget

/-- Unless the iteration ends the loop, another one can close the phantom. -/
theorem phantom_closed {stale : Option Nat} (hrunning : s.exited = false)
    (haccepts : s.accepts input = true) (herror : input.accept = .error stale)
    (hidle : ¬ idles timeout s input) :
    ∃ later s₁ s₂ events, iterate timeout s input = some s₁ ∧ iterate timeout s₁ later = some s₂ ∧
      s₂.log = s₁.log ++ events ∧ ClosedIn s.accepted events := by
  obtain ⟨s₁, hs₁⟩ := exists_iterate hrunning timeout input
  have hit := iterated_of_iterate hs₁
  have hconn := hit.connections
  rw [newSensors_of_error haccepts herror] at hconn
  have hrunning₁ : s₁.exited = false := by
    rw [Bool.eq_false_iff]
    intro hexited
    exact hidle (hit.exited.mp hexited)
  obtain ⟨s₂, hs₂⟩ :=
    exists_iterate hrunning₁ timeout (outlast timeout s₁ (phantom s input stale))
  exact ⟨_, s₁, s₂, _, hs₁, hs₂, (iterated_of_iterate hs₂).log, closedIn_outlast hconn⟩

/-- In every state, a connection request whose accept fails leaves a phantom at the end of the list,
    and only the entries of the existing connections as they were; and unless the same iteration
    ends the loop, a later one can close the phantom and log that it did. -/
theorem accept_fails_loudly (timeout : Int) (s : Connmgr) (input : IterationInput)
    (stale : Option Nat) (haccepts : s.accepts input = true)
    (herror : input.accept = .error stale) :
    ¬ AcceptFailsQuietly timeout s input ∧
      (s.prepare input).connections = s.connections ++ [phantom s input stale] ∧
      (∀ k ≤ s.connections.length, (s.prepare input).fd k = pollEntry input.report (s.fd k)) ∧
      (s.exited = false → ¬ idles timeout s input →
        ∃ later s₁ s₂ events, iterate timeout s input = some s₁ ∧
          iterate timeout s₁ later = some s₂ ∧ s₂.log = s₁.log ++ events ∧
          ClosedIn s.accepted events) := by
  have hconn := prepare_connections_of_error haccepts herror
  refine ⟨?_, hconn, fun k hk => prepare_fd hk,
    fun hrunning => phantom_closed hrunning haccepts herror⟩
  intro hquiet
  have hlen := congrArg List.length (hconn.symm.trans hquiet.connections)
  simp at hlen

/-- A client connects, and the accept fails with NULL on the stack. -/
def sampleFailure : IterationInput := { sampleInput (some 4) with accept := .error none }

/-- With no connection in the list, the phantom is its only one, and the next iteration logs that
    the sensor node 0 exceeded the limit. -/
theorem accept_fails_loudly_sample :
    (sampleServer.prepare sampleFailure).connections = [⟨0, none, 0, 0⟩] ∧
      ∃ later s₁ s₂ events, iterate 5 sampleServer sampleFailure = some s₁ ∧
        iterate 5 s₁ later = some s₂ ∧ s₂.log = s₁.log ++ events ∧ ClosedIn 0 events := by
  have h := accept_fails_loudly 5 sampleServer sampleFailure none rfl rfl
  refine ⟨h.2.1, h.2.2.2 rfl ?_⟩
  intro hidle
  exact absurd hidle.2 (by decide)

theorem accept_fails_quietly_fails :
    ∃ s, run (iterate 5) sampleServer
        [sampleFailure, outlast 5 ((iterate 5 sampleServer sampleFailure).get rfl)
          ⟨0, none, 0, 0⟩] =
          some s ∧
      s.log = [.tested 0 ⟨false, false⟩, .timedOut 0 0] ∧
      ¬ AcceptFailsQuietly 5 sampleServer sampleFailure := by
  refine ⟨_, rfl, by decide, ?_⟩
  intro hquiet
  exact absurd hquiet.connections (by decide)

end SensorGateway
