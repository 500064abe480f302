import SensorGateway.Connmgr.Connmgr
import Mathlib.Tactic

/-!
# The loop over the connections in closed form

The loop body looks at one connection only, so that the loop is a recursion along the list of
connections that stops at the first removal. `sensorLoop_eq` says what the loop does to every field
of the state in terms of this recursion.
-/

namespace SensorGateway

variable {timeout : Int} {input : IterationInput} {s s' : Connmgr}

/-- What the loop does with the connections from an index on. -/
structure ServedAll where
  sensors : List SensorSocket
  events : List ConnmgrEvent
  lastRecord : Option Int
  /-- the index of the removed connection -/
  removed : Option Nat

def serveAll (timeout : Int) (input : IterationInput) (revents : Nat → PollEvents) :
    Nat → List SensorSocket → ServedAll
  | _, [] => ⟨[], [], none, none⟩
  | i, sensor :: rest =>
    let r := serveSensor timeout (input.sensor i) (revents i) sensor
    if r.removed then ⟨rest, r.events, r.lastRecord, some i⟩
    else
      let t := serveAll timeout input revents (i + 1) rest
      ⟨r.sensor :: t.sensors, r.events ++ t.events, t.lastRecord.or r.lastRecord, t.removed⟩

/-- `revents` of the connection at an index of the list. -/
def Connmgr.reventsAt (s : Connmgr) (i : Nat) : PollEvents := (s.fd (i + 1)).revents

@[simp] theorem Connmgr.store_reventsAt (s : Connmgr) (i : Nat) (r : Served) :
    (s.store i r).reventsAt = s.reventsAt := rfl

/-- The poll table after the loop. -/
def shiftRemoved (fd : Nat → PollFd) (listSize : Nat) : Option Nat → Nat → PollFd
  | none => fd
  | some k => shiftArray fd (k + 1) (listSize + 1)

theorem sensorLoop_eq (timeout : Int) (input : IterationInput) (s : Connmgr) {listSize : Nat}
    (pre cs post : List SensorSocket) (hconn : s.connections = pre ++ cs ++ post)
    (hsize : pre.length + cs.length = listSize) :
    let r := serveAll timeout input s.reventsAt pre.length cs
    ∃ indices : List Nat,
      sensorLoop timeout input listSize cs.length pre.length s =
        { s with
          connections := pre ++ r.sensors ++ post
          lastRecord := r.lastRecord.getD s.lastRecord
          log := s.log ++ r.events
          fd := shiftRemoved s.fd listSize r.removed
          accesses := s.accesses ++ indices.map (·, s.capacity) } ∧
      (r.removed = none → ∀ k ∈ indices, k ≤ listSize) ∧
      (r.removed ≠ none → listSize + 1 ∈ indices) ∧ (∀ k ∈ indices, k ≤ listSize + 1) := by
  induction cs generalizing pre s with
  | nil =>
    rw [List.append_nil] at hconn
    refine ⟨[], ?_, by simp, by simp [serveAll], by simp⟩
    simp [sensorLoop, serveAll, shiftRemoved, ← hconn]
  | cons sensor rest ih =>
    rw [List.length_cons] at hsize
    have hget : seqGetElementAtIndex s.connections pre.length = some sensor := by
      rw [seqGetElementAtIndex_of_lt (by simp [hconn])]
      simp [hconn]
    simp only [List.length_cons, sensorLoop, hget, serveAll]
    rw [show (s.fd (pre.length + 1)).revents = s.reventsAt pre.length from rfl]
    generalize serveSensor timeout (input.sensor pre.length) (s.reventsAt pre.length) sensor = r
    have hset : s.connections.set pre.length r.sensor = pre ++ r.sensor :: (rest ++ post) := by
      simp [hconn]
    split_ifs with hremoved
    · -- the loop ends with the removal
      refine ⟨[pre.length + 1] ++
        (List.range' (pre.length + 1) (listSize - pre.length)).flatMap fun k => [k + 1, k], ?_,
        by simp, fun _ => ?_, ?_⟩
      · have herase : seqRemoveAtIndex (pre ++ r.sensor :: (rest ++ post)) pre.length =
            pre ++ (rest ++ post) := by
          rw [seqRemoveAtIndex_of_lt (by simp), List.eraseIdx_append_of_length_le le_rfl]
          simp
        simp [Connmgr.removeSensor, Connmgr.store, Connmgr.touch, hset, herase, shiftRemoved]
      · simp only [List.mem_append, List.mem_flatMap, List.mem_range'_1]
        exact .inr ⟨listSize, by omega, by simp⟩
      · simp only [List.mem_append, List.mem_flatMap, List.mem_range'_1, List.mem_cons,
          List.not_mem_nil, or_false]
        rintro k (rfl | ⟨j, hj, rfl | rfl⟩) <;> omega
    · -- the connection stays in the list and the loop goes on
      have hnext := ih (s.store pre.length r) (pre ++ [r.sensor])
        (by simp [Connmgr.store, hset]) (by simp; omega)
      rw [List.length_append, List.length_singleton, Connmgr.store_reventsAt] at hnext
      obtain ⟨indices, heq, hnone, hsome, hle⟩ := hnext
      refine ⟨(pre.length + 1) :: indices, ?_, ?_, ?_, ?_⟩
      · rw [heq]
        simp [Connmgr.store, Connmgr.touch, Option.getD_or]
      · intro hn k hk
        rcases List.mem_cons.mp hk with rfl | hk
        · omega
        · exact hnone hn k hk
      · intro hn
        exact List.mem_cons_of_mem _ (hsome hn)
      · intro k hk
        rcases List.mem_cons.mp hk with rfl | hk
        · omega
        · exact hle k hk

end SensorGateway
