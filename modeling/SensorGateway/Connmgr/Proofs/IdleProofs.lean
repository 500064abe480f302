import SensorGateway.Connmgr.Proofs.AlignProofs

/-!
# The exit for want of clients

The idle test counts the connections as they were at the head of the iteration, before the
connection request of the same iteration is accepted. Everywhere else an accepted connection is
accounted for: it is in the list, or it has been closed.
-/

namespace SensorGateway

open Transition Connmgr

variable {timeout : Int} {input : IterationInput} {s s' : Connmgr}

/-! ## What is removed is closed -/

/-- The log says that the connection was closed. -/
def ClosedIn (serial : Nat) (log : List ConnmgrEvent) : Prop :=
  ∃ e ∈ log, e.closes = true ∧ e.serial = serial

theorem ClosedIn.append_left {serial : Nat} {log : List ConnmgrEvent} (h : ClosedIn serial log)
    (events : List ConnmgrEvent) : ClosedIn serial (log ++ events) := by
  obtain ⟨e, he, hcloses⟩ := h
  exact ⟨e, List.mem_append_left events he, hcloses⟩

theorem ClosedIn.append_right {serial : Nat} {events : List ConnmgrEvent}
    (h : ClosedIn serial events) (log : List ConnmgrEvent) : ClosedIn serial (log ++ events) := by
  obtain ⟨e, he, hcloses⟩ := h
  exact ⟨e, List.mem_append_right log he, hcloses⟩

theorem serveSensor_closedIn {input : SensorInput} {revents : PollEvents} {sensor : SensorSocket}
    (h : (serveSensor timeout input revents sensor).removed = true) :
    ClosedIn sensor.serial (serveSensor timeout input revents sensor).events := by
  simp only [serveSensor] at h ⊢
  split_ifs at h ⊢ with hup hold
  · exact ⟨_, List.mem_append_right _ (List.mem_singleton_self _), rfl, rfl⟩
  · exact ⟨_, List.mem_append_right _ (List.mem_singleton_self _), rfl, rfl⟩

/-- The connection that the loop removes is closed in the same iteration. -/
theorem serveAll_closedIn {revents : Nat → PollEvents} {i k : Nat} {cs : List SensorSocket}
    {sensor : SensorSocket} (h : (serveAll timeout input revents i cs).removed = some (i + k))
    (hk : cs[k]? = some sensor) :
    ClosedIn sensor.serial (serveAll timeout input revents i cs).events := by
  induction cs generalizing i k with
  | nil => simp at hk
  | cons head rest ih =>
    simp only [serveAll] at h ⊢
    split_ifs at h ⊢ with hremoved
    · obtain rfl : k = 0 := by simpa using h
      obtain rfl : head = sensor := by simpa using hk
      exact serveSensor_closedIn hremoved
    · cases k with
      | zero =>
        -- what is removed later has a larger index
        rcases serveAll_spec timeout input revents (i + 1) rest with ⟨hnone, -⟩ | ⟨j, c, hsome, -⟩
        · rw [hnone] at h
          simp at h
        · rw [hsome] at h
          have := Option.some.inj h
          omega
      | succ k =>
        rw [show i + (k + 1) = i + 1 + k by omega] at h
        exact (ih h (by simpa using hk)).append_right _

/-! ## Every accepted connection is accounted for -/

/-- An accepted connection is in the list, or it has been closed and removed. -/
def Accounted (s : Connmgr) : Prop :=
  ∀ serial < s.accepted, serial ∈ s.links.map Prod.fst ∨ ClosedIn serial s.log

theorem mem_newSensors_of_accepted {serial : Nat} (hit : Iterated timeout s input s')
    (hge : s.accepted ≤ serial) (hlt : serial < s'.accepted) :
    serial ∈ ((s.newSensors input).map SensorSocket.link).map Prod.fst := by
  rw [hit.accepted] at hlt
  unfold newSensors at hlt ⊢
  split_ifs at hlt ⊢ with haccepts
  · have hserial : serial = s.accepted := by
      rw [List.length_singleton] at hlt
      omega
    simp [hserial, SensorSocket.link]
  · rw [List.length_nil] at hlt
    omega

/-- A connection stays in the list through an iteration, unless it is closed in it. -/
theorem Iterated.closedIn_of_removed (hit : Iterated timeout s input s') {serial : Nat}
    (hmem : serial ∈ s.links.map Prod.fst) :
    serial ∈ s'.links.map Prod.fst ∨ ClosedIn serial s'.log := by
  rcases hit.links with ⟨-, hlinks, -⟩ | ⟨k, sensor, hsome, hk, -, hlinks, -⟩
  · left
    rw [hlinks, List.map_append]
    exact List.mem_append_left _ hmem
  · by_cases hthis : serial = sensor.serial
    · right
      subst hthis
      rw [hit.log]
      have hsome' : (serveAll timeout input (s.polled input) 0 s.connections).removed =
          some (0 + k) := by
        rw [Nat.zero_add]
        exact hsome
      exact (serveAll_closedIn hsome' hk).append_right _
    · left
      rw [hlinks, List.map_append]
      apply List.mem_append_left
      obtain ⟨j, hj⟩ := List.mem_iff_getElem?.mp hmem
      have hjk : j ≠ k := by
        rintro rfl
        apply hthis
        have hlink : s.links[j]? = some sensor.link := by simp [Connmgr.links, hk]
        rw [List.getElem?_map, hlink] at hj
        exact (Option.some.inj hj).symm
      rw [← List.eraseIdx_map]
      exact List.mem_eraseIdx_iff_getElem?.mpr ⟨j, hjk, hj⟩

theorem accounted_of_iterated (h : Accounted s) (hit : Iterated timeout s input s') :
    Accounted s' := by
  intro serial hserial
  by_cases hold : serial < s.accepted
  · rcases h serial hold with hmem | hclosed
    · exact hit.closedIn_of_removed hmem
    · right
      rw [hit.log]
      exact hclosed.append_left _
  · left
    have hmem := mem_newSensors_of_accepted hit (by omega) hserial
    rcases hit.links with ⟨-, hlinks, -⟩ | ⟨k, sensor, -, -, -, hlinks, -⟩
    · rw [hlinks, List.map_append]
      exact List.mem_append_right _ hmem
    · rw [hlinks, List.map_append]
      exact List.mem_append_right _ hmem

/-! ## The exit -/

/-- When `manage_connection` has returned for want of clients, no connection is left, and every
    accepted one has been closed. -/
def ExitsWithoutClients (s : Connmgr) : Prop :=
  s.exited = true → s.connections = [] ∧ ∀ serial < s.accepted, ClosedIn serial s.log

/-- When the idle test ends the loop, `poll` has not reported a connection request before it. -/
def NoRequestAtExit (timeout : Int) (s : Connmgr) (input : IterationInput) : Prop :=
  idles timeout s input → s.accepts input = false

theorem connections_of_idles (hit : Iterated timeout s input s') (hidle : idles timeout s input) :
    s'.connections = s.newSensors input := by
  have hempty : s.connections = [] := List.length_eq_zero_iff.mp hidle.1
  rw [hit.connections, Connmgr.served, hempty]
  rfl

theorem exitsWithoutClients_of_iterated (h : Accounted s) (hit : Iterated timeout s input s')
    (hquiet : NoRequestAtExit timeout s input) : ExitsWithoutClients s' := by
  intro hexited
  have hidle := hit.exited.mp hexited
  have hnone : s'.connections = [] := by
    rw [connections_of_idles hit hidle, newSensors, hquiet hidle]
    rfl
  refine ⟨hnone, ?_⟩
  intro serial hserial
  rcases accounted_of_iterated h hit serial hserial with hmem | hclosed
  · rw [Connmgr.links, hnone] at hmem
    simp at hmem
  · exact hclosed

theorem not_exitsWithoutClients_of_iterated (hit : Iterated timeout s input s')
    (hrequest : ¬ NoRequestAtExit timeout s input) : ¬ ExitsWithoutClients s' := by
  intro hexits
  obtain ⟨hidle, haccepts⟩ := Classical.not_imp.mp hrequest
  have hnone := (hexits (hit.exited.mpr hidle)).1
  rw [connections_of_idles hit hidle, newSensors, if_pos (by simpa using haccepts)] at hnone
  simp at hnone

/-- The gateway never stops on a live client exactly when no connection request is reported in the
    iteration whose idle test ends the loop. -/
theorem exit_without_clients_iff (timeout : Int) (sd : Nat) (fd : Nat → PollFd) (time : Int)
    (inputs : List IterationInput) :
    Along (iterate timeout) ExitsWithoutClients (serverCreate sd fd time) inputs ↔
      Meets (iterate timeout) (NoRequestAtExit timeout) (serverCreate sd fd time) inputs := by
  apply along_iff_meets (I := fun s => Accounted s ∧ ExitsWithoutClients s)
    (L := fun _ _ => True)
  · rintro s ⟨-, hexits⟩
    exact hexits
  · rintro s input s' ⟨h, -⟩ - hquiet hs
    have hit := iterated_of_iterate hs
    exact ⟨accounted_of_iterated h hit, exitsWithoutClients_of_iterated h hit hquiet⟩
  · intro s input s' _ _ hrequest hs
    exact not_exitsWithoutClients_of_iterated (iterated_of_iterate hs) hrequest
  · constructor
    · intro serial hserial
      exact absurd hserial (Nat.not_lt_zero serial)
    · intro hexited
      exact absurd hexited Bool.false_ne_true
  · exact meets_true

/-- A client connects just when more than 5 seconds have passed without a record: the connection is
    in the list, it was never closed, and `manage_connection` returns. -/
theorem exit_without_clients_fails :
    ∃ s, Reach (iterate 5) sampleServer s ∧ s.exited = true ∧
      s.connections = [⟨0, some 4, 6, 0⟩] ∧ ¬ ExitsWithoutClients s := by
  obtain ⟨s, hs⟩ : ∃ s, run (iterate 5) sampleServer
      [{ sampleInput (some 4) with acceptTime := 6, idleTime := 6 }] = some s := ⟨_, rfl⟩
  obtain ⟨hexited, hconn⟩ : s.exited = true ∧ s.connections = [⟨0, some 4, 6, 0⟩] := by
    obtain rfl : s = _ := (Option.some.inj hs).symm
    exact ⟨rfl, rfl⟩
  refine ⟨s, reachVia_of_runVia hs, hexited, hconn, ?_⟩
  intro hexits
  have hnone := (hexits hexited).1
  rw [hconn] at hnone
  simp at hnone

end SensorGateway
