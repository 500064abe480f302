import SensorGateway.Connmgr.Proofs.ConnectionProofs

/-!
# The history of one connection

The bytes taken from a connection and the measurements inserted for it, read off the log. An
iteration adds to them what one record read of that connection takes and inserts, if the iteration
comes to read it, and nothing otherwise.
-/

namespace SensorGateway

open Connmgr

variable {timeout : Int} {input : IterationInput} {s s' : Connmgr} {serial : Nat}

def receivedOf (serial : Nat) (log : List ConnmgrEvent) : List UInt8 :=
  log.flatMap fun
    | .received n bytes => if n = serial then bytes else []
    | _ => []

def insertedOf (serial : Nat) (log : List ConnmgrEvent) : List Measurement :=
  log.flatMap fun
    | .inserted n data => if n = serial then [data] else []
    | _ => []

@[simp] theorem receivedOf_nil : receivedOf serial [] = [] := rfl

@[simp] theorem insertedOf_nil : insertedOf serial [] = [] := rfl

@[simp] theorem receivedOf_append (log events : List ConnmgrEvent) :
    receivedOf serial (log ++ events) = receivedOf serial log ++ receivedOf serial events :=
  List.flatMap_append

@[simp] theorem insertedOf_append (log events : List ConnmgrEvent) :
    insertedOf serial (log ++ events) = insertedOf serial log ++ insertedOf serial events :=
  List.flatMap_append

theorem flatMap_eventsOf {α : Type} {f : ConnmgrEvent → List α}
    (h : ∀ e : ConnmgrEvent, e.serial ≠ serial → f e = []) (log : List ConnmgrEvent) :
    (eventsOf serial log).flatMap f = log.flatMap f := by
  unfold eventsOf
  induction log with
  | nil => rfl
  | cons e log ih =>
    rw [List.filter_cons, List.flatMap_cons]
    by_cases he : e.serial = serial
    · rw [if_pos (by simpa using he), List.flatMap_cons, ih]
    · rw [if_neg (by simpa using he), h e he, ih, List.nil_append]

/-- The history of a connection is read off its own events. -/
theorem receivedOf_eventsOf (serial : Nat) (log : List ConnmgrEvent) :
    receivedOf serial (eventsOf serial log) = receivedOf serial log := by
  apply flatMap_eventsOf
  intro e he
  cases e <;> simp_all [ConnmgrEvent.serial]

theorem insertedOf_eventsOf (serial : Nat) (log : List ConnmgrEvent) :
    insertedOf serial (eventsOf serial log) = insertedOf serial log := by
  apply flatMap_eventsOf
  intro e he
  cases e <;> simp_all [ConnmgrEvent.serial]

/-! ## What one pass of the loop adds -/

theorem hearSensor_history (input : RecordInput) (revents : PollEvents) (sensor : SensorSocket) :
    let r := readRecord sensor.socket input
    let events := (hearSensor input revents sensor).events
    receivedOf sensor.serial events = (if revents.pollin then r.consumed else []) ∧
      insertedOf sensor.serial events = if revents.pollin ∧ r.complete then [r.data] else [] := by
  intro r events
  cases hin : revents.pollin with
  | false => simp [events, hearSensor, hin]
  | true =>
    have hevents : events = (readSensor input sensor).events := by simp [events, hearSensor, hin]
    rw [hevents]
    cases hc : (readRecord sensor.socket input).complete <;>
      by_cases hfirst : sensor.sensorId = firstSensorId <;>
      simp [readSensor, hc, hfirst, receivedOf, insertedOf, r]

/-- The loop body adds the bytes and the measurement of one record read, when the socket is
    readable. -/
theorem serveSensor_history (timeout : Int) (input : SensorInput) (revents : PollEvents)
    (sensor : SensorSocket) :
    let r := readRecord sensor.socket input.record
    let events := (serveSensor timeout input revents sensor).events
    receivedOf sensor.serial events = (if revents.pollin then r.consumed else []) ∧
      insertedOf sensor.serial events = if revents.pollin ∧ r.complete then [r.data] else [] := by
  have hhear := hearSensor_history input.record revents sensor
  -- the other events take and insert nothing
  have hskip : ∀ e, receivedOf sensor.serial [e] = [] → insertedOf sensor.serial [e] = [] →
      receivedOf sensor.serial (.tested sensor.serial revents ::
        (hearSensor input.record revents sensor).events ++ [e]) =
          receivedOf sensor.serial (hearSensor input.record revents sensor).events ∧
      insertedOf sensor.serial (.tested sensor.serial revents ::
        (hearSensor input.record revents sensor).events ++ [e]) =
          insertedOf sensor.serial (hearSensor input.record revents sensor).events := by
    intro e hreceived hinserted
    rw [receivedOf_append, insertedOf_append, hreceived, hinserted, List.append_nil,
      List.append_nil]
    exact ⟨rfl, rfl⟩
  intro r events
  simp only [events, serveSensor]
  by_cases hup : revents.pollrdhup
  · rw [if_pos hup, (hskip _ rfl rfl).1, (hskip _ rfl rfl).2]
    exact hhear
  · rw [if_neg hup]
    by_cases hold : input.now >
        deadline (hearSensor input.record revents sensor).sensor.lastRecord timeout
    · rw [if_pos hold, (hskip _ rfl rfl).1, (hskip _ rfl rfl).2]
      exact hhear
    · rw [if_neg hold]
      exact hhear

/-! ## What an iteration adds -/

/-- The loop reads the connection at an index: it comes to it, and its socket is readable. -/
def Reads (timeout : Int) (input : IterationInput) (revents : Nat → PollEvents) (i : Nat)
    (cs : List SensorSocket) (k : Nat) : Prop :=
  (revents (i + k)).pollin = true ∧ Reached timeout input revents i cs k

/-- The iteration comes to read the connection at index `k` of the list. -/
def Connmgr.ReadsAt (timeout : Int) (s : Connmgr) (input : IterationInput) (k : Nat) : Prop :=
  Reads timeout input (s.polled input) 0 s.connections k

theorem readsAt_iff {k : Nat} :
    s.ReadsAt timeout input k ↔
      (s.polled input k).pollin = true ∧ s.ReachedAt timeout input k := by
  unfold Connmgr.ReadsAt Reads
  rw [Nat.zero_add]
  rfl

/-- A connection that is read adds one record read to its history. -/
theorem Iterated.history_of_readsAt (hit : Iterated timeout s input s') (h : Numbered s) {k : Nat}
    {sensor : SensorSocket} (hk : s.connections[k]? = some sensor)
    (hreads : s.ReadsAt timeout input k) :
    let r := readRecord sensor.socket (input.sensor k).record
    receivedOf sensor.serial s'.log = receivedOf sensor.serial s.log ++ r.consumed ∧
      insertedOf sensor.serial s'.log =
        insertedOf sensor.serial s.log ++ if r.complete then [r.data] else [] := by
  intro r
  obtain ⟨hin, hreached⟩ := readsAt_iff.mp hreads
  obtain ⟨hreceived, hinserted⟩ :=
    serveSensor_history timeout (input.sensor k) (s.polled input k) sensor
  rw [if_pos hin] at hreceived
  simp only [hin, true_and] at hinserted
  rw [← receivedOf_eventsOf, ← insertedOf_eventsOf, hit.eventsOf_of_reachedAt h hk hreached,
    receivedOf_append, insertedOf_append, receivedOf_eventsOf, insertedOf_eventsOf, Connmgr.passAt,
    hreceived, hinserted]
  exact ⟨rfl, rfl⟩

/-- An iteration leaves the history of a connection as it is, unless it reads the connection. -/
theorem Iterated.history (hit : Iterated timeout s input s') (h : Numbered s) (serial : Nat) :
    (receivedOf serial s'.log = receivedOf serial s.log ∧
        insertedOf serial s'.log = insertedOf serial s.log) ∨
      ∃ (k : Nat) (sensor : SensorSocket), s.connections[k]? = some sensor ∧
        sensor.serial = serial ∧ s.ReadsAt timeout input k := by
  rw [← receivedOf_eventsOf serial s'.log, ← insertedOf_eventsOf serial s'.log]
  rcases hit.eventsOf_cases h serial with heq | ⟨k, sensor, hk, rfl, hreached, heq⟩
  · left
    rw [heq, receivedOf_eventsOf, insertedOf_eventsOf]
    exact ⟨rfl, rfl⟩
  · by_cases hin : (s.polled input k).pollin = true
    · exact .inr ⟨k, sensor, hk, rfl, readsAt_iff.mpr ⟨hin, hreached⟩⟩
    · -- the pass takes no bytes
      obtain ⟨hreceived, hinserted⟩ :=
        serveSensor_history timeout (input.sensor k) (s.polled input k) sensor
      rw [if_neg hin] at hreceived
      rw [if_neg fun hboth => hin hboth.1] at hinserted
      left
      rw [heq, receivedOf_append, insertedOf_append, receivedOf_eventsOf, insertedOf_eventsOf,
        Connmgr.passAt, hreceived, hinserted, List.append_nil, List.append_nil]
      exact ⟨rfl, rfl⟩

end SensorGateway
