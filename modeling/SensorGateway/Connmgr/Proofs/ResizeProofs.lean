import SensorGateway.Connmgr.Proofs.AlignProofs
import SensorGateway.Connmgr.Proofs.BoundsProofs

/-!
# Does the poll table settle?

The table grows when the connections fill it but for one entry and shrinks, five entries too large,
to the server and the connections: to a size at which it grows again. While the connections stay the
same the rule comes to rest after one step, except behind such a shrink and at three connections,
where it goes to and fro between 4 and 8 entries.
-/

namespace SensorGateway

open Transition Connmgr

variable {timeout : Int} {input : IterationInput} {s s' : Connmgr}

/-! ## The rule -/

/-- `server->conn_size` after the resize. -/
def nextConnSize (connSize : Int) (listSize : Nat) : Int :=
  if listSize = connSize - 1 then connSize * 2
  else if listSize = connSize - decreaseSize then listSize + 1
  else connSize

theorem resizeTable_fst (connSize : Int) (capacity listSize : Nat) :
    (resizeTable connSize capacity listSize).1 = nextConnSize connSize listSize := by
  unfold resizeTable nextConnSize
  split_ifs
  · rfl
  · rfl
  · rfl

/-- The resize leaves the size as it is. -/
def AtFixedPoint (connSize : Int) (listSize : Nat) : Prop :=
  nextConnSize connSize listSize = connSize

/-- The pairs that one application of the rule does not bring to rest. -/
def Restless (connSize : Int) (listSize : Nat) : Prop :=
  listSize = connSize - decreaseSize ∨ (listSize = 3 ∧ connSize = 4)

instance (connSize : Int) (listSize : Nat) : Decidable (Restless connSize listSize) :=
  inferInstanceAs (Decidable (_ ∨ _))

/-- One application is enough exactly for the other pairs. -/
theorem atFixedPoint_next_iff (connSize : Int) (listSize : Nat) :
    AtFixedPoint (nextConnSize connSize listSize) listSize ↔ ¬ Restless connSize listSize := by
  unfold AtFixedPoint Restless nextConnSize decreaseSize
  by_cases hgrow : (listSize : Int) = connSize - 1
  · simp only [if_pos hgrow]
    split_ifs <;> omega
  · by_cases hshrink : (listSize : Int) = connSize - (5 : Nat)
    · simp only [if_neg hgrow, if_pos hshrink]
      split_ifs <;> omega
    · simp only [if_neg hgrow, if_neg hshrink]
      exact iff_of_true trivial (by omega)

/-! ## Iterations without a change of the connections -/

/-- No client connects and no connection is removed. -/
def Quiet (timeout : Int) (s : Connmgr) (input : IterationInput) : Prop :=
  s.accepts input = false ∧
    ¬ ∃ k sensor, s.connections[k]? = some sensor ∧
      Leaves timeout (input.sensor k) (s.polled input k) sensor

/-- The number of iterations that change `server->conn_size`. -/
def resizes (timeout : Int) (s : Connmgr) : List IterationInput → Nat
  | [] => 0
  | input :: inputs =>
    match iterate timeout s input with
    | none => 0
    | some s' => (if s'.connSize = s.connSize then 0 else 1) + resizes timeout s' inputs

/-- However many quiet iterations follow, at most one of them changes the size, and after the first
    one the size is a fixed point. -/
structure Settles (timeout : Int) (s : Connmgr) : Prop where
  once : ∀ inputs, Meets (iterate timeout) (Quiet timeout) s inputs → resizes timeout s inputs ≤ 1
  fixed : ∀ input s', Quiet timeout s input → iterate timeout s input = some s' →
    AtFixedPoint s'.connSize s'.connections.length

theorem Iterated.nextConnSize (hit : Iterated timeout s input s') :
    s'.connSize = SensorGateway.nextConnSize s.connSize s.connections.length := by
  rw [hit.connSize, resizeTable_fst]

theorem Quiet.length_eq (hq : Quiet timeout s input) (hit : Iterated timeout s input s') :
    s'.connections.length = s.connections.length := by
  have hnew : s.newSensors input = [] := by simp [newSensors, hq.1]
  rcases hit.links with ⟨-, hlinks, -⟩ | ⟨k, sensor, -, hk, hleaves, -⟩
  · rw [hnew, List.map_nil, List.append_nil] at hlinks
    simpa [Connmgr.links] using congrArg List.length hlinks
  · exact absurd ⟨k, sensor, hk, hleaves⟩ hq.2

/-- At a fixed point nothing changes any more. -/
theorem resizes_of_atFixedPoint {inputs : List IterationInput}
    (hfix : AtFixedPoint s.connSize s.connections.length)
    (hquiet : Meets (iterate timeout) (Quiet timeout) s inputs) : resizes timeout s inputs = 0 := by
  induction inputs generalizing s with
  | nil => rfl
  | cons input inputs ih =>
    rw [resizes]
    cases hs : iterate timeout s input with
    | none => rfl
    | some s' =>
      obtain ⟨hq, hrest⟩ := hquiet s' hs
      have hit := iterated_of_iterate hs
      have hsize : s'.connSize = s.connSize := hit.nextConnSize.trans hfix
      have hfix' : AtFixedPoint s'.connSize s'.connections.length := by
        rw [hsize, hq.length_eq hit]
        exact hfix
      show (if s'.connSize = s.connSize then 0 else 1) + resizes timeout s' inputs = 0
      rw [if_pos hsize, ih hfix' hrest]

theorem settles_of_not_restless (hrest : ¬ Restless s.connSize s.connections.length) :
    Settles timeout s := by
  have hfixed : ∀ input s', Quiet timeout s input → iterate timeout s input = some s' →
      AtFixedPoint s'.connSize s'.connections.length := by
    intro input s' hq hs
    have hit := iterated_of_iterate hs
    rw [hit.nextConnSize, hq.length_eq hit]
    exact (atFixedPoint_next_iff _ _).mpr hrest
  refine ⟨fun inputs hquiet => ?_, hfixed⟩
  cases inputs with
  | nil => exact Nat.zero_le 1
  | cons input inputs =>
    rw [resizes]
    cases hs : iterate timeout s input with
    | none => exact Nat.zero_le 1
    | some s' =>
      obtain ⟨hq, hrest⟩ := hquiet s' hs
      show (if s'.connSize = s.connSize then 0 else 1) + resizes timeout s' inputs ≤ 1
      rw [resizes_of_atFixedPoint (hfixed input s' hq hs) hrest]
      split_ifs <;> omega

/-! ## A quiet iteration -/

/-- Nothing is reported and the timeout tests read the clock early enough. -/
def silence (timeout : Int) (s : Connmgr) : IterationInput where
  report := fun _ => ⟨false, false⟩
  accept := .error none
  acceptTime := 0
  idleTime := 0
  sensor := fun k =>
    { record := ⟨.failed false, .failed false, .failed false, fun _ => 0, fun _ => 0, fun _ => 0⟩
      now := deadline ((s.connections[k]?.map SensorSocket.lastRecord).getD 0) timeout
      closeTime := 0 }

theorem pollEntry_silent {report : Nat → PollEvents} (hreport : ∀ sd, report sd = ⟨false, false⟩)
    (entry : PollFd) : (pollEntry report entry).revents = ⟨false, false⟩ := by
  unfold pollEntry
  split
  · simp [hreport]
  · rfl

/-- When nothing is reported and no connection has been silent for too long, the iteration is
    quiet. -/
theorem quiet_of_silent (hreport : ∀ sd, input.report sd = ⟨false, false⟩)
    (hnow : ∀ k sensor, s.connections[k]? = some sensor →
      (input.sensor k).now ≤ deadline sensor.lastRecord timeout) : Quiet timeout s input := by
  constructor
  · rw [accepts, pollEntry_silent hreport]
  · rintro ⟨k, sensor, hk, hleaves⟩
    have hle := hnow k sensor hk
    rw [Leaves, lastHeard, polled, pollEntry_silent hreport] at hleaves
    simp at hleaves
    omega

theorem quiet_silence (timeout : Int) (s : Connmgr) : Quiet timeout s (silence timeout s) := by
  refine quiet_of_silent (fun _ => rfl) ?_
  intro k sensor hk
  simp [silence, hk]

/-! ## Settling -/

/-- The sizes that the table can have. -/
def FourFold (s : Connmgr) : Prop := ∃ k : Nat, 0 < k ∧ s.connSize = 4 * k

theorem fourFold_of_reach {sd : Nat} {fd : Nat → PollFd} {time : Int}
    (h : Reach (iterate timeout) (serverCreate sd fd time) s) : FourFold s := by
  refine h.invariant ⟨1, Nat.one_pos, rfl⟩ ?_
  rintro s input s' ⟨k, hk, hsize⟩ - hs
  have hnext := (iterated_of_iterate hs).nextConnSize
  unfold nextConnSize decreaseSize at hnext
  split_ifs at hnext with hgrow hshrink
  · exact ⟨2 * k, by omega, by omega⟩
  · exact ⟨k - 1, by omega, by omega⟩
  · exact ⟨k, hk, by omega⟩

/-- A state of `manage_connection` settles exactly when the connections are not five fewer than the
    entries of the table and not three with four entries. In every state that is reached the size is
    a multiple of four, so the others have a number of connections that is three modulo four. -/
theorem resizing_settles_iff (timeout : Int) (sd : Nat) (fd : Nat → PollFd) (time : Int)
    (s : Connmgr) (h : Reach (iterate timeout) (serverCreate sd fd time) s)
    (hrunning : s.exited = false) :
    (Settles timeout s ↔ ¬ Restless s.connSize s.connections.length) ∧
      (Restless s.connSize s.connections.length → s.connections.length % 4 = 3) := by
  constructor
  · constructor
    · intro hsettles
      obtain ⟨s', hs⟩ := exists_iterate hrunning timeout (silence timeout s)
      have hq := quiet_silence timeout s
      have hit := iterated_of_iterate hs
      have hfix := hsettles.fixed _ s' hq hs
      rw [hit.nextConnSize, hq.length_eq hit] at hfix
      exact (atFixedPoint_next_iff _ _).mp hfix
    · exact settles_of_not_restless
  · obtain ⟨k, hk, hsize⟩ := fourFold_of_reach h
    unfold Restless decreaseSize
    omega

/-- Without connections the fresh table is left alone. -/
theorem resizing_settles_fresh : Settles 5 sampleServer :=
  (resizing_settles_iff 5 3 _ 0 sampleServer .refl rfl).1.mpr (by decide)

/-- The server with three clients, whose table has four entries. -/
def fullServer : Connmgr :=
  (run (iterate 5) sampleServer ([some 4, some 5, some 6].map sampleInput)).getD sampleServer

/-- Nothing happens any more, and the next three iterations take the table from 4 entries to 8, back
    to 4 and to 8 again. -/
theorem resizing_settles_fails :
    Reach (iterate 5) sampleServer fullServer ∧ fullServer.exited = false ∧
      fullServer.connections.length = 3 ∧ fullServer.connSize = 4 ∧
      Meets (iterate 5) (Quiet 5) fullServer
        [sampleInput none, sampleInput none, sampleInput none] ∧
      resizes 5 fullServer [sampleInput none, sampleInput none, sampleInput none] = 3 ∧
      ¬ Settles 5 fullServer := by
  have hr : Reach (iterate 5) sampleServer fullServer := reachVia_of_runVia
    (rfl : run (iterate 5) sampleServer ([some 4, some 5, some 6].map sampleInput) =
      some fullServer)
  -- no connection was heard of after time 0, at which the clock stands still
  have hquiet : ∀ t : Connmgr, (∀ sensor ∈ t.connections, sensor.lastRecord = 0) →
      Quiet 5 t (sampleInput none) := by
    intro t ht
    refine quiet_of_silent (fun sd => by simp [sampleInput]) ?_
    intro k sensor hk
    rw [ht sensor (List.mem_of_getElem? hk)]
    show (0 : Int) ≤ deadline 0 5
    decide
  have hmeets : Meets (iterate 5) (Quiet 5) fullServer
      [sampleInput none, sampleInput none, sampleInput none] := by
    refine fun t ht => ⟨hquiet _ (by decide), ?_⟩
    obtain rfl : t = _ := (Option.some.inj ht).symm
    refine fun t ht => ⟨hquiet _ (by decide), ?_⟩
    obtain rfl : t = _ := (Option.some.inj ht).symm
    exact fun t ht => ⟨hquiet _ (by decide), trivial⟩
  have hthree : resizes 5 fullServer [sampleInput none, sampleInput none, sampleInput none] =
      3 := by
    decide
  refine ⟨hr, rfl, rfl, rfl, hmeets, hthree, ?_⟩
  intro hsettles
  have hle := hsettles.once _ hmeets
  rw [hthree] at hle
  exact absurd hle (by decide)

end SensorGateway
