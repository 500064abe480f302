import SensorGateway.Connmgr.Proofs.LoopProofs

/-!
# What the loop does with a connection

When a connection leaves the list, which events concern it, and what is left of it. The first
connection that leaves ends the loop, and it is the only one that is closed and removed.
-/

namespace SensorGateway

variable {timeout : Int} {input : IterationInput}

/-! ## When a connection leaves -/

/-- The time of the last record of a connection after its socket was read. -/
def lastHeard (input : RecordInput) (revents : PollEvents) (sensor : SensorSocket) : Int :=
  if revents.pollin ∧ (readRecord sensor.socket input).complete then
    (readRecord sensor.socket input).data.ts.toInt
  else sensor.lastRecord

/-- A connection hangs up or has been silent for too long. -/
def Leaves (timeout : Int) (input : SensorInput) (revents : PollEvents) (sensor : SensorSocket) :
    Prop :=
  revents.pollrdhup ∨ input.now > deadline (lastHeard input.record revents sensor) timeout

theorem hearSensor_lastRecord (input : RecordInput) (revents : PollEvents) (sensor : SensorSocket) :
    (hearSensor input revents sensor).sensor.lastRecord = lastHeard input revents sensor := by
  unfold hearSensor lastHeard
  cases revents.pollin
  · simp
  · cases hc : (readRecord sensor.socket input).complete <;> simp [readSensor, hc]

theorem serveSensor_removed_iff (timeout : Int) (input : SensorInput) (revents : PollEvents)
    (sensor : SensorSocket) :
    (serveSensor timeout input revents sensor).removed = true ↔
      Leaves timeout input revents sensor := by
  rw [Leaves, ← hearSensor_lastRecord]
  simp only [serveSensor]
  split_ifs with hup hold
  · simp [hup]
  · simpa [hup] using hold
  · simpa [hup] using hold

/-- The loop removes a connection exactly when one of the list leaves. -/
theorem serveAll_removed_ne_none {revents : Nat → PollEvents} {cs : List SensorSocket} {i : Nat} :
    (serveAll timeout input revents i cs).removed ≠ none ↔
      ∃ k sensor, cs[k]? = some sensor ∧
        Leaves timeout (input.sensor (i + k)) (revents (i + k)) sensor := by
  induction cs generalizing i with
  | nil => simp [serveAll]
  | cons sensor rest ih =>
    have hhead := serveSensor_removed_iff timeout (input.sensor i) (revents i) sensor
    simp only [serveAll]
    split_ifs with hremoved
    · exact iff_of_true (by simp) ⟨0, sensor, rfl, hhead.mp hremoved⟩
    · rw [ih]
      constructor
      · rintro ⟨k, c, hk, hc⟩
        refine ⟨k + 1, c, hk, ?_⟩
        rwa [← Nat.add_assoc, Nat.add_right_comm]
      · rintro ⟨k, c, hk, hc⟩
        cases k with
        | zero =>
          obtain rfl : sensor = c := by simpa using hk
          exact absurd (hhead.mpr hc) hremoved
        | succ k =>
          refine ⟨k, c, by simpa using hk, ?_⟩
          rwa [Nat.add_right_comm, Nat.add_assoc]

/-! ## What is left of the connections -/

/-- What does not change about a connection. -/
def SensorSocket.link (sensor : SensorSocket) : Nat × Option Nat := (sensor.serial, sensor.socket)

/-- The event closes the connection. -/
def ConnmgrEvent.closes : ConnmgrEvent → Bool
  | .closed _ _ | .timedOut _ _ => true
  | _ => false

@[simp] theorem hearSensor_link (input : RecordInput) (revents : PollEvents)
    (sensor : SensorSocket) : (hearSensor input revents sensor).sensor.link = sensor.link := by
  unfold hearSensor
  split_ifs <;> rfl

@[simp] theorem serveSensor_link (timeout : Int) (input : SensorInput) (revents : PollEvents)
    (sensor : SensorSocket) :
    (serveSensor timeout input revents sensor).sensor.link = sensor.link := by
  simp only [serveSensor]
  split_ifs <;> exact hearSensor_link ..

theorem hearSensor_events {input : RecordInput} {revents : PollEvents} {sensor : SensorSocket}
    {e : ConnmgrEvent} (he : e ∈ (hearSensor input revents sensor).events) :
    e.serial = sensor.serial ∧ e.closes = false ∧ ∀ serial r, e ≠ .tested serial r := by
  unfold hearSensor readSensor at he
  split_ifs at he
  · simp only [List.mem_cons, List.mem_append] at he
    rcases he with rfl | he | he
    · exact ⟨rfl, rfl, by simp⟩
    · split_ifs at he <;> simp at he
      subst he
      exact ⟨rfl, rfl, by simp⟩
    · split_ifs at he <;> simp at he
      subst he
      exact ⟨rfl, rfl, by simp⟩
  · simp at he

theorem serveSensor_events {input : SensorInput} {revents : PollEvents} {sensor : SensorSocket}
    {e : ConnmgrEvent} (he : e ∈ (serveSensor timeout input revents sensor).events) :
    e.serial = sensor.serial ∧
      (e.closes = true → (serveSensor timeout input revents sensor).removed = true) ∧
      ∀ serial r, e = .tested serial r → r = revents := by
  have hhead : ∀ {e : ConnmgrEvent}, e ∈ ConnmgrEvent.tested sensor.serial revents ::
      (hearSensor input.record revents sensor).events →
      e.serial = sensor.serial ∧ e.closes = false ∧
        ∀ serial r, e = .tested serial r → r = revents := by
    intro e he
    rcases List.mem_cons.mp he with rfl | he
    · exact ⟨rfl, rfl, fun serial r h => by cases h; rfl⟩
    · obtain ⟨hserial, hcloses, hne⟩ := hearSensor_events he
      exact ⟨hserial, hcloses, fun serial r h => absurd h (hne serial r)⟩
  simp only [serveSensor] at he ⊢
  split_ifs at he ⊢
  · rcases List.mem_append.mp he with he | he
    · exact ⟨(hhead he).1, fun _ => rfl, (hhead he).2.2⟩
    · obtain rfl := List.mem_singleton.mp he
      exact ⟨rfl, fun _ => rfl, by simp⟩
  · rcases List.mem_append.mp he with he | he
    · exact ⟨(hhead he).1, fun _ => rfl, (hhead he).2.2⟩
    · obtain rfl := List.mem_singleton.mp he
      exact ⟨rfl, fun _ => rfl, by simp⟩
  · obtain ⟨hserial, hcloses, htested⟩ := hhead he
    exact ⟨hserial, fun h => by simp [hcloses] at h, htested⟩

/-- Either every connection stays and none is closed, or one that leaves is the only one closed and
    the only one removed. -/
theorem serveAll_spec (timeout : Int) (input : IterationInput) (revents : Nat → PollEvents)
    (i : Nat) (cs : List SensorSocket) :
    let r := serveAll timeout input revents i cs
    (r.removed = none ∧ r.sensors.map SensorSocket.link = cs.map SensorSocket.link ∧
        ∀ e ∈ r.events, e.closes = false) ∨
      ∃ k sensor, r.removed = some (i + k) ∧ cs[k]? = some sensor ∧
        Leaves timeout (input.sensor (i + k)) (revents (i + k)) sensor ∧
        r.sensors.map SensorSocket.link = (cs.map SensorSocket.link).eraseIdx k ∧
        ∀ e ∈ r.events, e.closes = true → e.serial = sensor.serial := by
  induction cs generalizing i with
  | nil => exact .inl ⟨rfl, rfl, by simp [serveAll]⟩
  | cons sensor rest ih =>
    have hremoved := serveSensor_removed_iff timeout (input.sensor i) (revents i) sensor
    have hstays : (serveSensor timeout (input.sensor i) (revents i) sensor).removed ≠ true →
        ∀ e ∈ (serveSensor timeout (input.sensor i) (revents i) sensor).events,
          e.closes = false := by
      intro hnot e he
      by_contra hcloses
      exact hnot ((serveSensor_events he).2.1 (by simpa using hcloses))
    simp only [serveAll]
    split_ifs with h
    · exact .inr ⟨0, sensor, rfl, rfl, hremoved.mp h, rfl, fun e he _ => (serveSensor_events he).1⟩
    · rcases ih (i + 1) with ⟨hnone, hlinks, hevents⟩ | ⟨k, c, hsome, hk, hleaves, hlinks, hevents⟩
      · refine .inl ⟨hnone, by simp [hlinks], ?_⟩
        intro e he
        rcases List.mem_append.mp he with he | he
        · exact hstays h e he
        · exact hevents e he
      · have hidx : i + 1 + k = i + (k + 1) := by omega
        rw [hidx] at hsome hleaves
        refine .inr ⟨k + 1, c, hsome, hk, hleaves, by simp [hlinks], ?_⟩
        intro e he hcloses
        rcases List.mem_append.mp he with he | he
        · simp [hstays h e he] at hcloses
        · exact hevents e he hcloses

theorem serveAll_sensors_length_le (timeout : Int) (input : IterationInput)
    (revents : Nat → PollEvents) (i : Nat) (cs : List SensorSocket) :
    (serveAll timeout input revents i cs).sensors.length ≤ cs.length := by
  rcases serveAll_spec timeout input revents i cs with ⟨-, hlinks, -⟩ | ⟨k, c, -, -, -, hlinks, -⟩
  · simpa using (congrArg List.length hlinks).le
  · have hlen := congrArg List.length hlinks
    rw [List.length_map] at hlen
    rw [hlen]
    simpa using List.length_eraseIdx_le (cs.map SensorSocket.link) k

/-- An event of the loop concerns a connection of the list, and what is tested is its `revents`. -/
theorem serveAll_events {revents : Nat → PollEvents} {i : Nat} {cs : List SensorSocket}
    {e : ConnmgrEvent} (he : e ∈ (serveAll timeout input revents i cs).events) :
    ∃ k sensor, cs[k]? = some sensor ∧ e.serial = sensor.serial ∧
      ∀ serial r, e = .tested serial r → r = revents (i + k) := by
  induction cs generalizing i with
  | nil => simp [serveAll] at he
  | cons sensor rest ih =>
    have hhead : e ∈ (serveSensor timeout (input.sensor i) (revents i) sensor).events →
        ∃ k c, (sensor :: rest)[k]? = some c ∧ e.serial = c.serial ∧
          ∀ serial r, e = .tested serial r → r = revents (i + k) :=
      fun he => ⟨0, sensor, rfl, (serveSensor_events he).1, (serveSensor_events he).2.2⟩
    simp only [serveAll] at he
    split_ifs at he
    · exact hhead he
    · rcases List.mem_append.mp he with he | he
      · exact hhead he
      · obtain ⟨k, c, hk, hserial, htested⟩ := ih he
        refine ⟨k + 1, c, hk, hserial, ?_⟩
        intro serial r h
        rw [htested serial r h, Nat.add_assoc, Nat.add_comm 1 k]

end SensorGateway
