import SensorGateway.Connmgr.Proofs.AlignProofs

/-!
# One connection through an iteration

The loop comes to a connection or it does not. If it does, the iteration adds the events of the loop
body for it to the log, and nothing else about it; if it does not, the connection and its events
stay as they are.
-/

namespace SensorGateway

open Connmgr

variable {timeout : Int} {input : IterationInput} {s s' : Connmgr} {serial : Nat}

/-- The events that concern a connection. -/
def eventsOf (serial : Nat) (log : List ConnmgrEvent) : List ConnmgrEvent :=
  log.filter fun e => e.serial = serial

@[simp] theorem eventsOf_append (log events : List ConnmgrEvent) :
    eventsOf serial (log ++ events) = eventsOf serial log ++ eventsOf serial events :=
  List.filter_append log events

theorem eventsOf_eq_self {events : List ConnmgrEvent} (h : ∀ e ∈ events, e.serial = serial) :
    eventsOf serial events = events := by
  apply List.filter_eq_self.mpr
  intro e he
  simpa using h e he

theorem eventsOf_eq_nil {events : List ConnmgrEvent} (h : ∀ e ∈ events, e.serial ≠ serial) :
    eventsOf serial events = [] := by
  apply List.filter_eq_nil_iff.mpr
  intro e he
  simpa using h e he

theorem mem_eventsOf {e : ConnmgrEvent} {log : List ConnmgrEvent} :
    e ∈ eventsOf serial log ↔ e ∈ log ∧ e.serial = serial := by
  simp [eventsOf]

/-! ## The loop -/

/-- The loop comes to the connection at an index: no connection before it leaves. -/
def Reached (timeout : Int) (input : IterationInput) (revents : Nat → PollEvents) (i : Nat)
    (cs : List SensorSocket) (k : Nat) : Prop :=
  ∀ j < k, ∀ sensor, cs[j]? = some sensor →
    ¬ Leaves timeout (input.sensor (i + j)) (revents (i + j)) sensor

theorem reached_zero {revents : Nat → PollEvents} {i : Nat} {cs : List SensorSocket} :
    Reached timeout input revents i cs 0 :=
  fun j hj => absurd hj (Nat.not_lt_zero j)

theorem reached_cons_succ {revents : Nat → PollEvents} {i k : Nat} {sensor : SensorSocket}
    {rest : List SensorSocket} :
    Reached timeout input revents i (sensor :: rest) (k + 1) ↔
      ¬ Leaves timeout (input.sensor i) (revents i) sensor ∧
        Reached timeout input revents (i + 1) rest k := by
  have hidx : ∀ j, i + (j + 1) = i + 1 + j := fun j => by omega
  constructor
  · intro hstay
    refine ⟨hstay 0 (by omega) sensor rfl, ?_⟩
    intro j hj c hc
    exact hidx j ▸ hstay (j + 1) (by omega) c hc
  · rintro ⟨hhead, hstay⟩ j hj c hc
    cases j with
    | zero =>
      obtain rfl : sensor = c := by simpa using hc
      exact hhead
    | succ j =>
      rw [hidx j]
      exact hstay j (by omega) c hc

/-- The events of a pass: those up to the tests, and the closing one if the connection leaves. -/
theorem serveSensor_closing (timeout : Int) (input : SensorInput) (revents : PollEvents)
    (sensor : SensorSocket) :
    let r := hearSensor input.record revents sensor
    let pass := serveSensor timeout input revents sensor
    pass.sensor = r.sensor ∧
      ((¬ Leaves timeout input revents sensor ∧
          pass.events = .tested sensor.serial revents :: r.events) ∨
        ∃ e, (e = .closed sensor.serial r.sensor.sensorId ∨
            e = .timedOut sensor.serial r.sensor.sensorId) ∧
          Leaves timeout input revents sensor ∧
          pass.events = (.tested sensor.serial revents :: r.events) ++ [e]) := by
  intro r pass
  have hleaves := serveSensor_removed_iff timeout input revents sensor
  simp only [pass, r, serveSensor] at hleaves ⊢
  split_ifs at hleaves ⊢ with hup hold
  · exact ⟨rfl, .inr ⟨_, .inl rfl, hleaves.mp rfl, rfl⟩⟩
  · exact ⟨rfl, .inr ⟨_, .inr rfl, hleaves.mp rfl, rfl⟩⟩
  · exact ⟨rfl, .inl ⟨fun h => hleaves.mpr h, rfl⟩⟩

theorem eventsOf_serveSensor (timeout : Int) (input : SensorInput) (revents : PollEvents)
    (sensor : SensorSocket) :
    eventsOf sensor.serial (serveSensor timeout input revents sensor).events =
      (serveSensor timeout input revents sensor).events :=
  eventsOf_eq_self fun _ he => (serveSensor_events he).1

theorem eventsOf_serveSensor_of_ne {input : SensorInput} {revents : PollEvents}
    {sensor : SensorSocket} (hne : sensor.serial ≠ serial) :
    eventsOf serial (serveSensor timeout input revents sensor).events = [] := by
  apply eventsOf_eq_nil
  intro e he heq
  exact hne ((serveSensor_events he).1.symm.trans heq)

/-- The loop adds no events of a connection that is not in the list. -/
theorem eventsOf_serveAll_of_notMem {revents : Nat → PollEvents} {i : Nat} {cs : List SensorSocket}
    (h : serial ∉ cs.map SensorSocket.serial) :
    eventsOf serial (serveAll timeout input revents i cs).events = [] := by
  apply eventsOf_eq_nil
  intro e he heq
  obtain ⟨j, c, hj, hserial, -⟩ := serveAll_events he
  apply h
  rw [← heq, hserial]
  exact List.mem_map_of_mem (List.mem_of_getElem? hj)

/-- The events of a connection in the loop: those of its own pass, if the loop comes to it. -/
theorem serveAll_eventsOf {revents : Nat → PollEvents} {i : Nat} {cs : List SensorSocket}
    (hnd : (cs.map SensorSocket.serial).Nodup) {k : Nat} {sensor : SensorSocket}
    (hk : cs[k]? = some sensor) :
    (Reached timeout input revents i cs k →
      eventsOf sensor.serial (serveAll timeout input revents i cs).events =
        (serveSensor timeout (input.sensor (i + k)) (revents (i + k)) sensor).events) ∧
    (¬ Reached timeout input revents i cs k →
      eventsOf sensor.serial (serveAll timeout input revents i cs).events = []) := by
  induction cs generalizing i k with
  | nil => simp at hk
  | cons head rest ih =>
    rw [List.map_cons, List.nodup_cons] at hnd
    obtain ⟨hfresh, hnd⟩ := hnd
    have hleaves := serveSensor_removed_iff timeout (input.sensor i) (revents i) head
    simp only [serveAll]
    cases k with
    | zero =>
      obtain rfl : head = sensor := by simpa using hk
      have hown := eventsOf_serveSensor timeout (input.sensor i) (revents i) head
      refine ⟨fun _ => ?_, fun hnot => absurd reached_zero hnot⟩
      split_ifs
      · exact hown
      · rw [eventsOf_append, hown, eventsOf_serveAll_of_notMem hfresh, List.append_nil]
        rfl
    | succ k =>
      have hk' : rest[k]? = some sensor := by simpa using hk
      have hne : head.serial ≠ sensor.serial := by
        intro heq
        apply hfresh
        rw [heq]
        exact List.mem_map_of_mem (List.mem_of_getElem? hk')
      have hhead := @eventsOf_serveSensor_of_ne timeout _ (input.sensor i) (revents i) head hne
      rw [reached_cons_succ, ← hleaves, ← Nat.add_assoc, Nat.add_right_comm]
      by_cases hremoved : (serveSensor timeout (input.sensor i) (revents i) head).removed = true
      · rw [if_pos hremoved]
        exact ⟨fun hreached => absurd hremoved hreached.1, fun _ => hhead⟩
      · rw [if_neg hremoved]
        show (_ → eventsOf _ (_ ++ _) = _) ∧ (_ → eventsOf _ (_ ++ _) = _)
        rw [eventsOf_append, hhead, List.nil_append]
        simpa only [hremoved, Bool.false_eq_true, not_false_eq_true, true_and] using ih hnd hk'

/-- A connection that is still there after the loop stayed through its own pass, or the loop did not
    come to it. -/
theorem mem_serveAll_sensors {revents : Nat → PollEvents} {i : Nat} {cs : List SensorSocket}
    {c : SensorSocket} (hc : c ∈ (serveAll timeout input revents i cs).sensors) :
    ∃ k sensor, cs[k]? = some sensor ∧
      ((Reached timeout input revents i cs k ∧
          ¬ Leaves timeout (input.sensor (i + k)) (revents (i + k)) sensor ∧
          c = (serveSensor timeout (input.sensor (i + k)) (revents (i + k)) sensor).sensor) ∨
        (¬ Reached timeout input revents i cs k ∧ c = sensor)) := by
  induction cs generalizing i with
  | nil => simp [serveAll] at hc
  | cons head rest ih =>
    have hleaves := serveSensor_removed_iff timeout (input.sensor i) (revents i) head
    simp only [serveAll] at hc
    split_ifs at hc with hremoved
    · -- the loop ends here
      obtain ⟨k, hk⟩ := List.mem_iff_getElem?.mp hc
      refine ⟨k + 1, c, hk, .inr ⟨?_, rfl⟩⟩
      rw [reached_cons_succ]
      intro hreached
      exact hreached.1 (hleaves.mp hremoved)
    · rcases List.mem_cons.mp hc with rfl | hc
      · exact ⟨0, head, rfl, .inl ⟨reached_zero, hleaves.not.mp hremoved, rfl⟩⟩
      · obtain ⟨k, sensor, hk, hcase⟩ := ih hc
        refine ⟨k + 1, sensor, hk, ?_⟩
        rw [reached_cons_succ, ← Nat.add_assoc, Nat.add_right_comm]
        rcases hcase with ⟨hreached, hstays, rfl⟩ | ⟨hnot, rfl⟩
        · exact .inl ⟨⟨hleaves.not.mp hremoved, hreached⟩, hstays, rfl⟩
        · exact .inr ⟨fun hreached => hnot hreached.2, rfl⟩

/-! ## The iteration -/

theorem Numbered.serials_nodup (h : Numbered s) :
    (s.connections.map SensorSocket.serial).Nodup := by
  simpa [Connmgr.links, Function.comp_def, SensorSocket.link] using h.nodup

/-- The serial tells the positions of the list apart. -/
theorem Numbered.serial_inj (h : Numbered s) {j k : Nat} {c sensor : SensorSocket}
    (hj : s.connections[j]? = some c) (hk : s.connections[k]? = some sensor)
    (hserial : c.serial = sensor.serial) : j = k := by
  have hlt : j < (s.connections.map SensorSocket.serial).length := by
    rw [List.length_map]
    exact (List.getElem?_eq_some_iff.mp hj).1
  exact (List.getElem?_inj hlt h.serials_nodup).mp (by simp [hj, hk, hserial])

/-- The iteration comes to the connection at index `k` of the list. -/
def Connmgr.ReachedAt (timeout : Int) (s : Connmgr) (input : IterationInput) (k : Nat) : Prop :=
  Reached timeout input (s.polled input) 0 s.connections k

/-- The loop body for the connection at index `k`. -/
def Connmgr.passAt (timeout : Int) (s : Connmgr) (input : IterationInput) (k : Nat)
    (sensor : SensorSocket) : Served :=
  serveSensor timeout (input.sensor k) (s.polled input k) sensor

theorem Connmgr.passAt_serial (timeout : Int) (s : Connmgr) (input : IterationInput) (k : Nat)
    (sensor : SensorSocket) : (s.passAt timeout input k sensor).sensor.serial = sensor.serial :=
  congrArg Prod.fst (serveSensor_link timeout (input.sensor k) (s.polled input k) sensor)

theorem Iterated.eventsOf_of_reachedAt (hit : Iterated timeout s input s') (h : Numbered s)
    {k : Nat} {sensor : SensorSocket} (hk : s.connections[k]? = some sensor)
    (hreached : s.ReachedAt timeout input k) :
    eventsOf sensor.serial s'.log =
      eventsOf sensor.serial s.log ++ (s.passAt timeout input k sensor).events := by
  have hevents := (serveAll_eventsOf h.serials_nodup hk).1 hreached
  rw [Nat.zero_add] at hevents
  rw [hit.log, eventsOf_append, Connmgr.served, hevents]
  rfl

theorem Iterated.eventsOf_of_not_reachedAt (hit : Iterated timeout s input s') (h : Numbered s)
    {k : Nat} {sensor : SensorSocket} (hk : s.connections[k]? = some sensor)
    (hnot : ¬ s.ReachedAt timeout input k) :
    eventsOf sensor.serial s'.log = eventsOf sensor.serial s.log := by
  have hevents := (serveAll_eventsOf h.serials_nodup hk).2 hnot
  rw [hit.log, eventsOf_append, Connmgr.served, hevents, List.append_nil]

theorem Iterated.eventsOf_of_not_mem (hit : Iterated timeout s input s')
    (hserial : ∀ sensor ∈ s.connections, sensor.serial ≠ serial) :
    eventsOf serial s'.log = eventsOf serial s.log := by
  have hnotMem : serial ∉ s.connections.map SensorSocket.serial := by
    intro hmem
    obtain ⟨sensor, hsensor, heq⟩ := List.mem_map.mp hmem
    exact hserial sensor hsensor heq
  rw [hit.log, eventsOf_append, Connmgr.served, eventsOf_serveAll_of_notMem hnotMem,
    List.append_nil]

/-- An iteration leaves the events of a connection as they are, unless it comes to the
    connection. -/
theorem Iterated.eventsOf_cases (hit : Iterated timeout s input s') (h : Numbered s)
    (serial : Nat) :
    eventsOf serial s'.log = eventsOf serial s.log ∨
      ∃ (k : Nat) (sensor : SensorSocket), s.connections[k]? = some sensor ∧
        sensor.serial = serial ∧ s.ReachedAt timeout input k ∧
        eventsOf serial s'.log =
          eventsOf serial s.log ++ (s.passAt timeout input k sensor).events := by
  by_cases hmem : ∃ sensor ∈ s.connections, sensor.serial = serial
  · obtain ⟨sensor, hmem, rfl⟩ := hmem
    obtain ⟨k, hk⟩ := List.mem_iff_getElem?.mp hmem
    by_cases hreached : s.ReachedAt timeout input k
    · exact .inr ⟨k, sensor, hk, rfl, hreached, hit.eventsOf_of_reachedAt h hk hreached⟩
    · exact .inl (hit.eventsOf_of_not_reachedAt h hk hreached)
  · left
    apply hit.eventsOf_of_not_mem
    intro sensor hsensor heq
    exact hmem ⟨sensor, hsensor, heq⟩

/-- The events of an iteration are those of the passes that the loop comes to. -/
theorem Numbered.mem_served_events (h : Numbered s) {e : ConnmgrEvent} :
    e ∈ (s.served timeout input).events ↔
      ∃ k sensor, s.connections[k]? = some sensor ∧ s.ReachedAt timeout input k ∧
        e ∈ (s.passAt timeout input k sensor).events := by
  have hevents : ∀ {k sensor}, s.connections[k]? = some sensor →
      (s.ReachedAt timeout input k →
        eventsOf sensor.serial (s.served timeout input).events =
          (s.passAt timeout input k sensor).events) ∧
      (¬ s.ReachedAt timeout input k →
        eventsOf sensor.serial (s.served timeout input).events = []) := by
    intro k sensor hk
    have hboth := @serveAll_eventsOf timeout input (s.polled input) 0 s.connections
      h.serials_nodup k
      sensor hk
    rw [Nat.zero_add] at hboth
    exact hboth
  constructor
  · intro he
    obtain ⟨k, sensor, hk, hserial, -⟩ := serveAll_events he
    have hmem := mem_eventsOf.mpr ⟨he, hserial⟩
    by_cases hreached : s.ReachedAt timeout input k
    · rw [(hevents hk).1 hreached] at hmem
      exact ⟨k, sensor, hk, hreached, hmem⟩
    · rw [(hevents hk).2 hreached] at hmem
      simp at hmem
  · rintro ⟨k, sensor, hk, hreached, he⟩
    rw [← (hevents hk).1 hreached] at he
    exact (mem_eventsOf.mp he).1

/-- Where a connection of the list comes from. -/
theorem Iterated.mem_connections (hit : Iterated timeout s input s') {c : SensorSocket}
    (hc : c ∈ s'.connections) :
    c ∈ s.newSensors input ∨
      ∃ k sensor, s.connections[k]? = some sensor ∧
        ((s.ReachedAt timeout input k ∧
            ¬ Leaves timeout (input.sensor k) (s.polled input k) sensor ∧
            c = (s.passAt timeout input k sensor).sensor) ∨
          (¬ s.ReachedAt timeout input k ∧ c = sensor)) := by
  rw [hit.connections] at hc
  rcases List.mem_append.mp hc with hc | hc
  · obtain ⟨k, sensor, hk, hcase⟩ := mem_serveAll_sensors hc
    rw [Nat.zero_add] at hcase
    exact .inr ⟨k, sensor, hk, hcase⟩
  · exact .inl hc

theorem serial_of_mem_newSensors {c : SensorSocket} (hc : c ∈ s.newSensors input) :
    c.serial = s.accepted ∧ c.sensorId = firstSensorId ∧ c.lastRecord = input.acceptTime := by
  unfold newSensors at hc
  split_ifs at hc
  · obtain rfl := List.mem_singleton.mp hc
    exact ⟨rfl, rfl, rfl⟩
  · simp at hc

/-- No event concerns a connection that has not been accepted. -/
def LogBelow (s : Connmgr) : Prop := ∀ e ∈ s.log, e.serial < s.accepted

theorem logBelow_of_iterated (h : LogBelow s) (hn : Numbered s)
    (hit : Iterated timeout s input s') : LogBelow s' := by
  intro e he
  rw [hit.log] at he
  rw [hit.accepted]
  apply Nat.lt_add_right
  rcases List.mem_append.mp he with he | he
  · exact h e he
  · obtain ⟨k, sensor, hk, hserial, -⟩ := serveAll_events he
    rw [hserial]
    exact hn.serial_lt sensor.link (List.mem_map_of_mem (List.mem_of_getElem? hk))

theorem LogBelow.eventsOf_accepted (h : LogBelow s) : eventsOf s.accepted s.log = [] := by
  apply eventsOf_eq_nil
  intro e he heq
  exact absurd (h e he) (by omega)

end SensorGateway
