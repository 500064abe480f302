import SensorGateway.Connmgr.Proofs.ConnectionProofs
import SensorGateway.Connmgr.Proofs.IdleProofs
import SensorGateway.Lib.Variant

/-!
# How connections are closed

An iteration closes one connection: the first of the list that leaves. A connection that is to be
closed waits only for those in front of it, and when all are to be closed and no client comes, the
list is emptied from its head on.
-/

namespace SensorGateway

open Transition Connmgr

variable {timeout : Int} {input : IterationInput} {s s' : Connmgr}

/-! ## The first connection that leaves -/

/-- The loop does not get past a connection that leaves. -/
theorem serveAll_removed_le {revents : Nat → PollEvents} {cs : List SensorSocket} {i k : Nat}
    {sensor : SensorSocket} (hk : cs[k]? = some sensor)
    (hleaves : Leaves timeout (input.sensor (i + k)) (revents (i + k)) sensor) :
    ∃ j ≤ k, (serveAll timeout input revents i cs).removed = some (i + j) := by
  induction cs generalizing i k with
  | nil => simp at hk
  | cons head rest ih =>
    have hremoved := serveSensor_removed_iff timeout (input.sensor i) (revents i) head
    simp only [serveAll]
    split_ifs with h
    · exact ⟨0, Nat.zero_le k, rfl⟩
    · cases k with
      | zero =>
        obtain rfl : head = sensor := by simpa using hk
        exact absurd (hremoved.mpr hleaves) h
      | succ k =>
        have hidx : ∀ j, i + (j + 1) = i + 1 + j := fun j => by omega
        rw [hidx k] at hleaves
        obtain ⟨j, hj, hsome⟩ := ih (by simpa using hk) hleaves
        refine ⟨j + 1, by omega, ?_⟩
        rw [hidx j]
        exact hsome

theorem Iterated.removed_le (hit : Iterated timeout s input s') {k : Nat} {sensor : SensorSocket}
    (hk : s.connections[k]? = some sensor)
    (hleaves : Leaves timeout (input.sensor k) (s.polled input k) sensor) :
    ∃ j ≤ k, ∃ first, s.connections[j]? = some first ∧
      s'.links = s.links.eraseIdx j ++ (s.newSensors input).map SensorSocket.link ∧
      ClosedIn first.serial (s.served timeout input).events := by
  obtain ⟨j, hj, hsome⟩ := serveAll_removed_le (i := 0) hk (by rwa [Nat.zero_add])
  rcases hit.links with ⟨hnone, -⟩ | ⟨j', first, hsome', hfirst, -, hlinks, -⟩
  · rw [Connmgr.served, hsome] at hnone
    simp at hnone
  · obtain rfl : j' = j := by
      rw [Connmgr.served, hsome, Nat.zero_add] at hsome'
      exact (Option.some.inj hsome').symm
    exact ⟨j', hj, first, hfirst, hlinks, serveAll_closedIn hsome hfirst⟩

/-! ## Waiting to be closed -/

/-- The connection hangs up or has been silent for too long, wherever it is in the list. -/
def Overdue (timeout : Int) (serial : Nat) (s : Connmgr) (input : IterationInput) : Prop :=
  ∀ k sensor, s.connections[k]? = some sensor → sensor.serial = serial →
    Leaves timeout (input.sensor k) (s.polled input k) sensor

theorem link_of_serial {p serial : Nat} (hp : (s.links.map Prod.fst)[p]? = some serial) :
    ∃ sensor, s.connections[p]? = some sensor ∧ sensor.serial = serial := by
  rw [Connmgr.links, List.map_map, List.getElem?_map] at hp
  obtain ⟨sensor, hsensor, hserial⟩ := Option.map_eq_some_iff.mp hp
  exact ⟨sensor, hsensor, hserial⟩

theorem notMem_eraseIdx {α : Type} {xs : List α} (hnodup : xs.Nodup) {p : Nat} {x : α}
    (hp : xs[p]? = some x) : x ∉ xs.eraseIdx p := by
  intro hmem
  obtain ⟨j, hne, hj⟩ := List.mem_eraseIdx_iff_getElem?.mp hmem
  exact hne (List.getElem?_inj (List.getElem?_eq_some_iff.mp hj).1 hnodup |>.mp (hj.trans hp.symm))

/-- One iteration closes the connection or takes one from those in front of it. -/
theorem Iterated.overdue (hit : Iterated timeout s input s') (h : Numbered s) {p serial : Nat}
    (hp : (s.links.map Prod.fst)[p]? = some serial) (hoverdue : Overdue timeout serial s input) :
    (ClosedIn serial (s.served timeout input).events ∧ serial ∉ s'.links.map Prod.fst) ∨
      ∃ p', p = p' + 1 ∧ (s'.links.map Prod.fst)[p']? = some serial := by
  obtain ⟨sensor, hsensor, hserial⟩ := link_of_serial hp
  obtain ⟨j, hj, first, hfirst, hlinks, hclosed⟩ :=
    hit.removed_le hsensor (hoverdue p sensor hsensor hserial)
  have hbound := (List.getElem?_eq_some_iff.mp hp).1
  have hjlt : j < s.links.length := by
    rw [List.length_map] at hbound
    omega
  rw [← List.eraseIdx_append_of_lt_length hjlt] at hlinks
  rw [hlinks, ← List.eraseIdx_map]
  have hp' : ((s.links ++ (s.newSensors input).map SensorSocket.link).map Prod.fst)[p]? =
      some serial := by
    rw [List.map_append, List.getElem?_append_left hbound]
    exact hp
  rcases Nat.eq_or_lt_of_le hj with rfl | hlt
  · obtain rfl : sensor = first := Option.some.inj (hsensor.symm.trans hfirst)
    exact .inl ⟨hserial ▸ hclosed, notMem_eraseIdx (h.links_append input).2 hp'⟩
  · obtain ⟨p', rfl⟩ : ∃ p', p = p' + 1 := ⟨p - 1, by omega⟩
    refine .inr ⟨p', rfl, ?_⟩
    rw [List.getElem?_eraseIdx_of_ge (by omega)]
    exact hp'

theorem running_of_connection (hit : Iterated timeout s input s') {p serial : Nat}
    (hp : (s.links.map Prod.fst)[p]? = some serial) : s'.exited = false := by
  by_contra hexited
  have hempty := (hit.exited.mp (by simpa using hexited)).1
  have hbound := (List.getElem?_eq_some_iff.mp hp).1
  rw [Connmgr.links, List.length_map, List.length_map] at hbound
  omega

theorem overdue_run {p serial : Nat} {inputs : List IterationInput} (h : Numbered s)
    (hp : (s.links.map Prod.fst)[p]? = some serial) (hrunning : s.exited = false)
    (hlen : inputs.length = p + 1)
    (hoverdue : Meets (iterate timeout) (Overdue timeout serial) s inputs) :
    ∃ n ≤ p, ∃ s', run (iterate timeout) s (inputs.take (n + 1)) = some s' ∧
      serial ∉ s'.links.map Prod.fst ∧ ∃ events, s'.log = s.log ++ events ∧
        ClosedIn serial events := by
  induction inputs generalizing s p with
  | nil => simp at hlen
  | cons input inputs ih =>
    obtain ⟨t, ht⟩ := exists_iterate hrunning timeout input
    have hit := iterated_of_iterate ht
    obtain ⟨hnow, hlater⟩ := (meets_cons ht).mp hoverdue
    rcases hit.overdue h hp hnow with ⟨hclosed, hgone⟩ | ⟨p', rfl, hp'⟩
    · exact ⟨0, Nat.zero_le p, t, run_cons_eq_some.mpr ⟨t, ht, rfl⟩, hgone, _, hit.log, hclosed⟩
    · obtain ⟨n, hn, s', hrun, hgone, events, hlog, hclosed⟩ :=
        ih (numbered_of_iterated h hit) hp' (running_of_connection hit hp)
          (by simpa using hlen) hlater
      refine ⟨n + 1, by omega, s', run_cons_eq_some.mpr ⟨t, ht, hrun⟩, hgone,
        (s.served timeout input).events ++ events, ?_, hclosed.append_right _⟩
      rw [hlog, hit.log, List.append_assoc]

/-! ## A server without clients -/

/-- No client connects, and every connection hangs up or has been silent for too long. -/
structure Deserted (timeout : Int) (s : Connmgr) (input : IterationInput) : Prop where
  noRequest : s.accepts input = false
  leaves : ∀ k sensor, s.connections[k]? = some sensor →
    Leaves timeout (input.sensor k) (s.polled input k) sensor

/-- The connections that are closed, in order. -/
def closings (log : List ConnmgrEvent) : List Nat :=
  (log.filter ConnmgrEvent.closes).map ConnmgrEvent.serial

@[simp] theorem closings_append (log events : List ConnmgrEvent) :
    closings (log ++ events) = closings log ++ closings events := by
  simp [closings]

theorem iterate_lastRecord (h : iterate timeout s input = some s') :
    s'.lastRecord = (s.served timeout input).lastRecord.getD s.lastRecord := by
  obtain ⟨-, exited, -, rfl⟩ := iterate_eq_some h
  obtain ⟨indices, heq, -⟩ := sensorLoop_prepare timeout s input
  rw [heq]

/-- A pass that removes its connection closes nothing else, and the server keeps the time. -/
theorem serveSensor_of_leaves {input : SensorInput} {revents : PollEvents} {sensor : SensorSocket}
    (h : Leaves timeout input revents sensor) :
    closings (serveSensor timeout input revents sensor).events = [sensor.serial] ∧
      (serveSensor timeout input revents sensor).lastRecord = some input.closeTime := by
  constructor
  · rcases (serveSensor_closing timeout input revents sensor).2 with ⟨hnot, -⟩ | ⟨e, he, -, hevents⟩
    · exact absurd h hnot
    · have hheard : closings (.tested sensor.serial revents ::
          (hearSensor input.record revents sensor).events) = [] := by
        rw [closings, List.map_eq_nil_iff, List.filter_eq_nil_iff]
        intro e he
        rcases List.mem_cons.mp he with rfl | he
        · exact Bool.false_ne_true
        · simp [(hearSensor_events he).2.1]
      rw [hevents, closings_append, hheard]
      rcases he with rfl | rfl
      · rfl
      · rfl
  · have hremoved := (serveSensor_removed_iff timeout input revents sensor).mpr h
    simp only [serveSensor] at hremoved ⊢
    split_ifs at hremoved ⊢ <;> rfl

/-- The first connection is closed, and the others are not looked at. -/
theorem iterate_deserted {sensor : SensorSocket} {rest : List SensorSocket}
    (hs : iterate timeout s input = some s') (hconn : s.connections = sensor :: rest)
    (h : Deserted timeout s input) :
    s'.exited = false ∧ s'.connections = rest ∧ s'.lastRecord = (input.sensor 0).closeTime ∧
      ∃ events, s'.log = s.log ++ events ∧ closings events = [sensor.serial] := by
  have hit := iterated_of_iterate hs
  have hleaves := h.leaves 0 sensor (by rw [hconn]; rfl)
  have hserved : s.served timeout input =
      ⟨rest, (s.passAt timeout input 0 sensor).events, (s.passAt timeout input 0 sensor).lastRecord,
        some 0⟩ := by
    rw [Connmgr.served, hconn]
    exact if_pos ((serveSensor_removed_iff timeout _ _ sensor).mpr hleaves)
  obtain ⟨hclosed, htime⟩ := serveSensor_of_leaves hleaves
  refine ⟨?_, ?_, ?_, _, hit.log, ?_⟩
  · by_contra hexited
    have hempty := (hit.exited.mp (by simpa using hexited)).1
    rw [hconn] at hempty
    simp at hempty
  · rw [hit.connections, hserved, newSensors, h.noRequest]
    exact List.append_nil rest
  · rw [iterate_lastRecord hs, hserved]
    show ((serveSensor _ _ _ _).lastRecord).getD _ = _
    rw [htime]
    rfl
  · rw [hserved]
    exact hclosed

/-- When the last connection of the list was closed: `server->last_record` after the iterations. -/
def lastClosed (lastRecord : Int) (inputs : List IterationInput) : Int :=
  inputs.foldl (fun _ input => (input.sensor 0).closeTime) lastRecord

/-- The list is emptied from its head on, a connection an iteration. -/
theorem deserted_run {inputs : List IterationInput} (hrunning : s.exited = false)
    (hlen : inputs.length = s.connections.length)
    (hdeserted : Meets (iterate timeout) (Deserted timeout) s inputs) :
    ∃ s', run (iterate timeout) s inputs = some s' ∧ s'.exited = false ∧ s'.connections = [] ∧
      s'.lastRecord = lastClosed s.lastRecord inputs ∧
      ∃ events, s'.log = s.log ++ events ∧ closings events = s.links.map Prod.fst := by
  induction inputs generalizing s with
  | nil =>
    have hempty : s.connections = [] := List.length_eq_zero_iff.mp hlen.symm
    exact ⟨s, rfl, hrunning, hempty, rfl, [], by simp, by simp [Connmgr.links, hempty, closings]⟩
  | cons input inputs ih =>
    obtain ⟨sensor, rest, hconn⟩ : ∃ sensor rest, s.connections = sensor :: rest :=
      List.exists_cons_of_length_eq_add_one hlen.symm
    obtain ⟨t, ht⟩ := exists_iterate hrunning timeout input
    obtain ⟨hnow, hlater⟩ := (meets_cons ht).mp hdeserted
    obtain ⟨hrunning', hconn', htime, events, hlog, hclosed⟩ := iterate_deserted ht hconn hnow
    obtain ⟨s', hrun, hs', hempty, htime', events', hlog', hclosed'⟩ :=
      ih hrunning' (by rw [hconn']; simpa [hconn] using hlen) hlater
    refine ⟨s', run_cons_eq_some.mpr ⟨t, ht, hrun⟩, hs', hempty, ?_, events ++ events', ?_, ?_⟩
    · rw [htime', htime]
      rfl
    · rw [hlog', hlog, List.append_assoc]
    · rw [closings_append, hclosed, hclosed', Connmgr.links, Connmgr.links, hconn, hconn']
      rfl

/-! ## The runs -/

/-- In every run: when the next `p + 1` iterations all find a connection hung up or silent for too
    long, and `p` connections are in front of it in the list, it is closed and removed within these
    iterations, whatever else they find. -/
theorem overdue_closed_within (timeout : Int) (sd : Nat) (fd : Nat → PollFd) (time : Int)
    (s : Connmgr) (h : Reach (iterate timeout) (serverCreate sd fd time) s)
    (hrunning : s.exited = false) (p : Nat) (sensor : SensorSocket)
    (hp : s.connections[p]? = some sensor) (inputs : List IterationInput)
    (hlen : inputs.length = p + 1)
    (hoverdue : Meets (iterate timeout) (Overdue timeout sensor.serial) s inputs) :
    ∃ n ≤ p, ∃ s', run (iterate timeout) s (inputs.take (n + 1)) = some s' ∧
      sensor.serial ∉ s'.links.map Prod.fst ∧
      ∃ events, s'.log = s.log ++ events ∧ ClosedIn sensor.serial events := by
  have hn := h.invariant (P := Numbered) (numbered_serverCreate sd fd time)
    fun s input s' hn _ hs => numbered_of_iterated hn (iterated_of_iterate hs)
  exact overdue_run hn (by simp [Connmgr.links, hp, SensorSocket.link]) hrunning hlen hoverdue

/-- Nothing is heard in the iteration, and every clock reading is 100. -/
def sampleLate : IterationInput :=
  { sampleInput none with
    idleTime := 100
    sensor := fun k => { (sampleInput none).sensor k with
      now := 100
      closeTime := 100 } }

theorem pollEntry_sampleLate (entry : PollFd) :
    (pollEntry sampleLate.report entry).revents.pollin = false := by
  unfold pollEntry
  split <;> simp [sampleLate, sampleInput]

theorem deserted_sampleLate (h : ∀ c ∈ s.connections, c.lastRecord = 0) :
    Deserted 5 s sampleLate where
  noRequest := pollEntry_sampleLate (s.fd 0)
  leaves := by
    intro k sensor hk
    right
    rw [lastHeard, polled, pollEntry_sampleLate, if_neg (by simp),
      h sensor (List.mem_of_getElem? hk)]
    show (100 : Int) > deadline 0 5
    decide

theorem meets_sampleLate (n : Nat) (h : ∀ c ∈ s.connections, c.lastRecord = 0) :
    Meets (iterate 5) (Deserted 5) s (List.replicate n sampleLate) := by
  induction n generalizing s with
  | zero => trivial
  | succ n ih =>
    intro t ht
    have hdeserted := deserted_sampleLate h
    refine ⟨hdeserted, ih ?_⟩
    cases hconn : s.connections with
    | nil =>
      have hit := iterated_of_iterate ht
      rw [hit.connections, Connmgr.served, hconn, newSensors, hdeserted.noRequest]
      simp [serveAll]
    | cons sensor rest =>
      rw [(iterate_deserted ht hconn hdeserted).2.1]
      intro c hc
      exact h c (by rw [hconn]; exact List.mem_cons_of_mem _ hc)

/-- The two clients that have connected. -/
theorem exists_sampleClients : ∃ s, run (iterate 5) sampleServer
    [sampleInput (some 4), sampleInput (some 5)] = some s ∧ s.exited = false ∧
      s.connections = [⟨0, some 4, 0, 0⟩, ⟨0, some 5, 0, 1⟩] ∧ s.lastRecord = 0 :=
  ⟨_, rfl, rfl, rfl, rfl⟩

/-- Two clients are connected, and at time 100 nothing has been heard from them. -/
theorem overdue_closed_within_sample :
    ∃ s, run (iterate 5) sampleServer [sampleInput (some 4), sampleInput (some 5)] = some s ∧
      ∃ n ≤ 1, ∃ s', run (iterate 5) s ([sampleLate, sampleLate].take (n + 1)) = some s' ∧
        1 ∉ s'.links.map Prod.fst := by
  obtain ⟨s, hs, hrunning, hconn, -⟩ := exists_sampleClients
  have hmeets : Meets (iterate 5) (Overdue 5 1) s [sampleLate, sampleLate] :=
    (meets_sampleLate 2 (by simp [hconn])).mono fun _ _ h k sensor hk _ => h.leaves k sensor hk
  obtain ⟨n, hn, s', hrun, hgone, -⟩ :=
    overdue_closed_within 5 3 _ 0 s (reachVia_of_runVia hs) hrunning 1
    ⟨0, some 5, 0, 1⟩ (by rw [hconn]; rfl) [sampleLate, sampleLate] rfl hmeets
  exact ⟨s, hs, n, hn, s', hrun, hgone⟩

/-- In every run: when no client connects any more and every connection hangs up or is silent for
    too long, the list is emptied from its head on, one connection an iteration; and the iteration
    after that ends `manage_connection`, with every connection it ever accepted closed, if and only
    if the timeout has passed since the last one was closed. -/
theorem deserted_server_stops (timeout : Int) (sd : Nat) (fd : Nat → PollFd) (time : Int)
    (s : Connmgr) (h : Reach (iterate timeout) (serverCreate sd fd time) s)
    (hrunning : s.exited = false) (inputs : List IterationInput) (last : IterationInput)
    (hlen : inputs.length = s.connections.length)
    (hdeserted : Meets (iterate timeout) (Deserted timeout) s (inputs ++ [last])) :
    ∃ s' s'' events, run (iterate timeout) s inputs = some s' ∧ s'.exited = false ∧
      s'.connections = [] ∧ s'.log = s.log ++ events ∧ closings events = s.links.map Prod.fst ∧
      iterate timeout s' last = some s'' ∧ s''.connections = [] ∧
      (∀ serial < s''.accepted, ClosedIn serial s''.log) ∧
      (s''.exited = true ↔ last.idleTime > deadline (lastClosed s.lastRecord inputs) timeout) := by
  obtain ⟨hnow, hlast⟩ := hdeserted.append
  obtain ⟨s', hrun, hrunning', hempty, htime, events, hlog, hclosed⟩ :=
    deserted_run hrunning hlen hnow
  obtain ⟨s'', hs''⟩ := exists_iterate hrunning' timeout last
  have hit := iterated_of_iterate hs''
  have hnone : s''.connections = [] := by
    rw [hit.connections, Connmgr.served, hempty, newSensors,
      ((meets_cons hs'').mp (hlast s' hrun)).1.noRequest]
    rfl
  have haccounted : Accounted s'' := by
    have hreach : Reach (iterate timeout) (serverCreate sd fd time) s'' :=
      ReachVia.tail_step (h.trans (reachVia_of_runVia hrun)) trivial hs''
    refine hreach.invariant (P := Accounted) ?_ fun s input s' ha _ hs =>
      accounted_of_iterated ha (iterated_of_iterate hs)
    intro serial hserial
    exact absurd hserial (Nat.not_lt_zero serial)
  refine ⟨s', s'', events, hrun, hrunning', hempty, hlog, hclosed, hs'', hnone, ?_, ?_⟩
  · intro serial hserial
    rcases haccounted serial hserial with hmem | hclosed
    · rw [Connmgr.links, hnone] at hmem
      simp at hmem
    · exact hclosed
  · rw [hit.exited, idles, hempty, htime]
    exact and_iff_right rfl

theorem deserted_server_stops_sample :
    ∃ s s' s'' events, run (iterate 5) sampleServer [sampleInput (some 4), sampleInput (some 5)] =
      some s ∧
      run (iterate 5) s [sampleLate, sampleLate] = some s' ∧ s'.log = s.log ++ events ∧
      closings events = [0, 1] ∧ iterate 5 s' sampleLate = some s'' ∧ s''.exited = false := by
  obtain ⟨s, hs, hrunning, hconn, -⟩ := exists_sampleClients
  obtain ⟨s', s'', events, hrun, -, -, hlog, hclosed, hs'', -, -, hexited⟩ :=
    deserted_server_stops 5 3 _ 0 s (reachVia_of_runVia hs) hrunning
      [sampleLate, sampleLate] sampleLate
      (by rw [hconn]; rfl) (meets_sampleLate 3 (by simp [hconn]))
  refine ⟨s, s', s'', events, hs, hrun, hlog, ?_, hs'', ?_⟩
  · rw [hclosed, Connmgr.links, hconn]
    rfl
  · -- the last connection was closed at 100 as well
    rw [← Bool.not_eq_true, hexited]
    show ¬ (100 : Int) > deadline 100 5
    decide

end SensorGateway
