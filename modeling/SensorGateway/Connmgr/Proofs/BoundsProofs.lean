import SensorGateway.Connmgr.Proofs.IterateProofs
import SensorGateway.Connmgr.Proofs.ServeProofs
import SensorGateway.Lib.Transition

/-!
# The bounds of the poll table

The table has one entry for the server and one for every connection, and after the resize one to
spare for the connection that is accepted or shifted out in the same iteration, unless the iteration
has just shrunk the table to fit.
-/

namespace SensorGateway

open Transition Connmgr

variable {timeout : Int} {input : IterationInput} {s s' : Connmgr}

/-! ## The room in the table -/

/-- Every index of `server->fd` that was used is below the number of entries allocated then. -/
def InBounds (s : Connmgr) : Prop := ∀ access ∈ s.accesses, access.1 < access.2

/-- The resize shrinks the table to the server and the connections of the list. -/
def Shrinks (s : Connmgr) : Prop := (s.connections.length : Int) = s.connSize - decreaseSize

/-- An iteration that shrinks the table neither accepts a connection nor removes one. -/
def FitsTable (timeout : Int) (s : Connmgr) (input : IterationInput) : Prop :=
  Shrinks s → s.accepts input = false ∧
    ¬ ∃ k sensor, s.connections[k]? = some sensor ∧
      Leaves timeout (input.sensor k) (s.polled input k) sensor

/-- The invariant: there is an entry for the server and for every connection. -/
structure Room (s : Connmgr) : Prop where
  capacity : (s.capacity : Int) = s.connSize
  room : s.connections.length + 1 ≤ s.capacity
  inBounds : InBounds s

theorem room_serverCreate (sd : Nat) (fd : Nat → PollFd) (time : Int) :
    Room (serverCreate sd fd time) where
  capacity := rfl
  room := Nat.le_of_ble_eq_true rfl
  inBounds := by simp [InBounds, serverCreate, beginingSize]

theorem newSensors_length (s : Connmgr) (input : IterationInput) :
    (s.newSensors input).length = if s.accepts input then 1 else 0 := by
  unfold newSensors
  split_ifs <;> rfl

/-- After the resize there is an entry to spare, unless the table was shrunk. -/
theorem Room.resizedCapacity (h : Room s) :
    (s.resizedCapacity : Int) = (resizeTable s.connSize s.capacity s.connections.length).1 ∧
      (Shrinks s → s.resizedCapacity = s.connections.length + 1) ∧
      (¬ Shrinks s → s.connections.length + 1 < s.resizedCapacity) := by
  have hcap := h.capacity
  have hroom := h.room
  unfold Shrinks Connmgr.resizedCapacity resizeTable decreaseSize
  split_ifs <;> refine ⟨?_, ?_, ?_⟩ <;> intros <;> simp_all <;> omega

theorem room_of_iterated (h : Room s) (hit : Iterated timeout s input s')
    (hfits : FitsTable timeout s input) : Room s' := by
  obtain ⟨hsize, hshrunk, hspare⟩ := h.resizedCapacity
  have hroom := h.room
  have hlen := serveAll_sensors_length_le timeout input (s.polled input) 0 s.connections
  have hnew := newSensors_length s input
  obtain ⟨indices, hacc, hle, -, hidx⟩ := hit.accesses
  -- an iteration that leaves no spare entry does not need one
  have hneed : s.resizedCapacity = s.connections.length + 1 →
      s.accepts input = false ∧ (s.served timeout input).removed = none := by
    intro hcap
    have hshrinks : Shrinks s := by
      by_contra hnot
      have := hspare hnot
      omega
    obtain ⟨haccepts, hleaves⟩ := hfits hshrinks
    refine ⟨haccepts, ?_⟩
    by_contra hremoved
    obtain ⟨k, sensor, hk, hl⟩ := serveAll_removed_ne_none.mp hremoved
    rw [Nat.zero_add] at hl
    exact hleaves ⟨k, sensor, hk, hl⟩
  have hge : s.connections.length + 1 ≤ s.resizedCapacity := by
    by_cases hshrinks : Shrinks s
    · exact (hshrunk hshrinks).ge
    · exact (hspare hshrinks).le
  refine ⟨?_, ?_, ?_⟩
  · rw [hit.capacity, hit.connSize, hsize]
  · rw [hit.connections, hit.capacity, List.length_append, hnew, Connmgr.served]
    split_ifs with haccepts
    · have : s.resizedCapacity ≠ s.connections.length + 1 := fun hcap => by
        simp [(hneed hcap).1] at haccepts
      omega
    · omega
  · intro access hmem
    rw [hacc] at hmem
    simp only [List.mem_append, List.mem_map, List.mem_range] at hmem
    rcases hmem with (hmem | ⟨k, hk, rfl⟩) | ⟨k, hk, rfl⟩
    · exact h.inBounds access hmem
    · show k < s.capacity
      omega
    · show k < s'.capacity
      rw [hit.capacity]
      rcases eq_or_ne s.resizedCapacity (s.connections.length + 1) with hcap | hcap
      · have := hidx (hneed hcap).1 (hneed hcap).2 k hk
        omega
      · have := hle k hk
        omega

theorem not_inBounds_of_iterated (h : Room s) (hit : Iterated timeout s input s')
    (hfits : ¬ FitsTable timeout s input) : ¬ InBounds s' := by
  obtain ⟨-, hshrunk, -⟩ := h.resizedCapacity
  obtain ⟨indices, hacc, -, hmem, -⟩ := hit.accesses
  obtain ⟨hshrinks, hneeds⟩ := Classical.not_imp.mp hfits
  have hneeds : s.accepts input = true ∨ (s.served timeout input).removed ≠ none := by
    by_contra hnot
    obtain ⟨haccepts, hremoved⟩ := not_or.mp hnot
    refine hneeds ⟨by simpa using haccepts, fun ⟨k, sensor, hk, hl⟩ => hremoved ?_⟩
    exact serveAll_removed_ne_none.mpr ⟨k, sensor, hk, by rwa [Nat.zero_add]⟩
  -- the entry behind the last connection is used, and is not there
  intro hin
  have hlast : (s.connections.length + 1, s'.capacity) ∈ s'.accesses := by
    rw [hacc]
    exact List.mem_append_right _ (List.mem_map_of_mem (hmem hneeds))
  have hlt := hin _ hlast
  rw [hit.capacity, hshrunk hshrinks] at hlt
  exact lt_irrefl _ hlt

/-- The poll table is never used out of bounds exactly when no iteration that shrinks it accepts or
    removes a connection. -/
theorem poll_table_in_bounds_iff (timeout : Int) (sd : Nat) (fd : Nat → PollFd) (time : Int)
    (inputs : List IterationInput) :
    Along (iterate timeout) InBounds (serverCreate sd fd time) inputs ↔
      Meets (iterate timeout) (FitsTable timeout) (serverCreate sd fd time) inputs := by
  refine along_iff_meets ?_ ?_ ?_ (room_serverCreate sd fd time) meets_true
  · intro s h
    exact h.inBounds
  · intro s input s' h _ hfits hs
    exact room_of_iterated h (iterated_of_iterate hs) hfits
  · intro s input s' h _ hfits hs
    exact not_inBounds_of_iterated h (iterated_of_iterate hs) hfits

def sampleServer : Connmgr := serverCreate 3 (fun _ => ⟨0, ⟨false, false⟩, ⟨false, false⟩⟩) 0

/-- An iteration at time 0 in which a client connects with descriptor `sd`, if there is one. -/
def sampleInput (client : Option Nat) : IterationInput where
  report := fun sd => ⟨sd = 3 ∧ client.isSome, false⟩
  accept := .ok (client.getD 0)
  acceptTime := 0
  idleTime := 0
  sensor := fun _ =>
    { record := ⟨.received [], .received [], .received [], fun _ => 0, fun _ => 0, fun _ => 0⟩
      now := 0
      closeTime := 0 }

/-- Three clients connect, the full table grows to 8 entries, the next iteration shrinks it to 4,
    and the fourth client gets the entry behind it. -/
theorem poll_table_in_bounds_fails :
    ∃ s, Reach (iterate 5) sampleServer s ∧ (4, 4) ∈ s.accesses ∧ ¬ InBounds s := by
  obtain ⟨s, hs⟩ : ∃ s, run (iterate 5) sampleServer
      ([some 4, some 5, some 6, none, some 7].map sampleInput) = some s := ⟨_, rfl⟩
  have hmem : (4, 4) ∈ s.accesses := by
    obtain rfl : s = _ := (Option.some.inj hs).symm
    decide
  refine ⟨s, reachVia_of_runVia hs, hmem, ?_⟩
  intro hin
  have hlt : 4 < 4 := hin _ hmem
  exact lt_irrefl 4 hlt

end SensorGateway
