import SensorGateway.Connmgr.Proofs.FramingProofs

/-!
# The log messages of one connection

A connection is announced with the id of its first measurement and closed at most once. The loop
body knows that a connection was announced by its `sensor_id`, which is 0 before: a first id of 0
does not change it, and a read that gets no measurement announces what is left on the stack.
-/

namespace SensorGateway

open Transition Connmgr

variable {timeout : Int} {input : IterationInput} {s s' : Connmgr} {serial : Nat}

/-! ## The protocol -/

/-- The event is written to the log file. -/
def ConnmgrEvent.logged : ConnmgrEvent → Bool
  | .opened _ _ | .closed _ _ | .timedOut _ _ => true
  | _ => false

def ConnmgrEvent.opens : ConnmgrEvent → Bool
  | .opened _ _ => true
  | _ => false

def messagesIn (history : List ConnmgrEvent) : List ConnmgrEvent :=
  history.filter ConnmgrEvent.logged

/-- The messages of a connection that is open and has delivered these measurements. -/
def openingOf (serial : Nat) : List Measurement → List ConnmgrEvent
  | [] => []
  | m :: _ => [.opened serial m.id]

/-- At most one closing message, with the id of the first measurement if there is one. -/
def ClosingOf (serial : Nat) (ms : List Measurement) (closing : List ConnmgrEvent) : Prop :=
  closing = [] ∨ ∃ id, (closing = [.closed serial id] ∨ closing = [.timedOut serial id]) ∧
    ∀ m, ms.head? = some m → id = m.id

/-- The events of one connection keep the protocol: the opening message exactly if a measurement was
    delivered, then at most one closing message, and nothing after it. -/
structure LogProtocol (serial : Nat) (history : List ConnmgrEvent) : Prop where
  messages : ∃ closing, messagesIn history =
    openingOf serial (insertedOf serial history) ++ closing ∧
    ClosingOf serial (insertedOf serial history) closing
  last : ∀ before after e, history = before ++ e :: after → e.closes = true → after = []

/-- The connection is open, and its `sensor_id` is 0 or the id it was announced with. -/
structure Announced (sensor : SensorSocket) (history : List ConnmgrEvent) : Prop where
  messages : messagesIn history = openingOf sensor.serial (insertedOf sensor.serial history)
  sensorId : sensor.sensorId =
    ((insertedOf sensor.serial history).head?.map Measurement.id).getD firstSensorId

/-- What is read announces the connection once: the first read gets a measurement, and a later one
    finds another id than 0. -/
def AnnouncesOnce (serial : Nat) (history : List ConnmgrEvent) (r : RecordRead) : Prop :=
  match insertedOf serial history with
  | [] => r.complete = true
  | m :: _ => m.id ≠ firstSensorId

theorem messagesIn_append (history events : List ConnmgrEvent) :
    messagesIn (history ++ events) = messagesIn history ++ messagesIn events :=
  List.filter_append history events

theorem openingOf_closes {ms : List Measurement} {e : ConnmgrEvent} (he : e ∈ openingOf serial ms) :
    e.closes = false := by
  cases ms with
  | nil => simp [openingOf] at he
  | cons m ms =>
    obtain rfl := List.mem_singleton.mp he
    rfl

variable {sensor : SensorSocket} {history : List ConnmgrEvent}

theorem Announced.closes (h : Announced sensor history) {e : ConnmgrEvent} (he : e ∈ history) :
    e.closes = false := by
  cases hlogged : e.logged with
  | false => cases e <;> first | rfl | cases hlogged
  | true =>
    have hmem : e ∈ messagesIn history := List.mem_filter.mpr ⟨he, hlogged⟩
    rw [h.messages] at hmem
    exact openingOf_closes hmem

theorem Announced.logProtocol (h : Announced sensor history) :
    LogProtocol sensor.serial history where
  messages := ⟨[], by rw [h.messages, List.append_nil], .inl rfl⟩
  last := by
    intro before after e hsplit hcloses
    have hmem : e ∈ history := by
      rw [hsplit]
      exact List.mem_append_right _ List.mem_cons_self
    simp [h.closes hmem] at hcloses

theorem logProtocol_nil : LogProtocol serial [] where
  messages := ⟨[], rfl, .inl rfl⟩
  last := by simp

/-- Closing an announced connection. -/
theorem Announced.close (h : Announced sensor history) {e : ConnmgrEvent}
    (he : e = .closed sensor.serial sensor.sensorId ∨ e = .timedOut sensor.serial sensor.sensorId) :
    LogProtocol sensor.serial (history ++ [e]) := by
  have hinserted : insertedOf sensor.serial (history ++ [e]) =
      insertedOf sensor.serial history := by
    rw [insertedOf_append]
    rcases he with rfl | rfl <;> exact List.append_nil _
  have hmessages : messagesIn [e] = [e] := by
    rcases he with rfl | rfl <;> rfl
  constructor
  · refine ⟨[e], ?_, .inr ⟨sensor.sensorId, ?_, ?_⟩⟩
    · rw [messagesIn_append, h.messages, hinserted, hmessages]
    · rcases he with rfl | rfl
      · exact .inl rfl
      · exact .inr rfl
    · intro m hm
      rw [hinserted] at hm
      rw [h.sensorId, hm]
      rfl
  · intro before after c hsplit hcloses
    rcases List.eq_nil_or_concat after with rfl | ⟨after, last, rfl⟩
    · rfl
    · -- a closing event before the last one would be in the history
      rw [List.concat_eq_append, ← List.cons_append, ← List.append_assoc] at hsplit
      have hhistory := (List.append_inj' hsplit rfl).1
      have hmem : c ∈ history := by
        rw [hhistory]
        exact List.mem_append_right _ List.mem_cons_self
      simp [h.closes hmem] at hcloses

/-- The protocol opens a connection once if it delivered anything, and never otherwise. -/
theorem LogProtocol.countP_opens (h : LogProtocol serial history) :
    history.countP ConnmgrEvent.opens = (openingOf serial (insertedOf serial history)).length := by
  have hlogged : (messagesIn history).countP ConnmgrEvent.opens =
      history.countP ConnmgrEvent.opens := by
    rw [messagesIn, List.countP_filter]
    apply List.countP_congr
    intro e _
    cases e <;> simp [ConnmgrEvent.opens, ConnmgrEvent.logged]
  obtain ⟨closing, hmessages, hclosing⟩ := h.messages
  have hnone : closing.countP ConnmgrEvent.opens = 0 := by
    rcases hclosing with rfl | ⟨id, rfl | rfl, -⟩ <;> rfl
  have hopening : (openingOf serial (insertedOf serial history)).countP ConnmgrEvent.opens =
      (openingOf serial (insertedOf serial history)).length := by
    cases insertedOf serial history <;> rfl
  rw [← hlogged, hmessages, List.countP_append, hnone, hopening, Nat.add_zero]

/-! ## One pass of the loop -/

/-- The messages of a read: the opening one while `sensor_id` is 0. -/
theorem hearSensor_messages (input : RecordInput) (revents : PollEvents) (sensor : SensorSocket) :
    let r := readRecord sensor.socket input
    let heard := hearSensor input revents sensor
    messagesIn heard.events = (if revents.pollin ∧ sensor.sensorId = firstSensorId then
        [.opened sensor.serial r.data.id] else []) ∧
      heard.sensor.sensorId = if revents.pollin ∧ sensor.sensorId = firstSensorId then r.data.id
        else sensor.sensorId := by
  intro r heard
  have hfilter : ∀ complete : Bool,
      messagesIn (if complete then [.inserted sensor.serial r.data] else []) = [] := by
    intro complete
    cases complete <;> rfl
  simp only [heard, hearSensor]
  by_cases hin : revents.pollin = true
  · rw [if_pos hin]
    have hread : messagesIn (readSensor input sensor).events =
        messagesIn (if r.complete then [.inserted sensor.serial r.data] else []) ++
          messagesIn (if sensor.sensorId = firstSensorId then
            [.opened sensor.serial r.data.id] else []) := messagesIn_append _ _
    rw [hread, hfilter, List.nil_append]
    by_cases hfirst : sensor.sensorId = firstSensorId
    · rw [if_pos hfirst, if_pos ⟨hin, hfirst⟩, if_pos ⟨hin, hfirst⟩]
      exact ⟨rfl, if_pos hfirst⟩
    · have hnot : ¬ (revents.pollin = true ∧ sensor.sensorId = firstSensorId) :=
        fun hboth => hfirst hboth.2
      rw [if_neg hfirst, if_neg hnot, if_neg hnot]
      exact ⟨rfl, if_neg hfirst⟩
  · have hnot : ¬ (revents.pollin = true ∧ sensor.sensorId = firstSensorId) :=
      fun hboth => hin hboth.1
    rw [if_neg hin, if_neg hnot, if_neg hnot]
    exact ⟨rfl, rfl⟩

theorem hearSensor_serial (input : RecordInput) (revents : PollEvents) (sensor : SensorSocket) :
    (hearSensor input revents sensor).sensor.serial = sensor.serial :=
  congrArg Prod.fst (hearSensor_link input revents sensor)

/-- A read that announces once writes the opening message when it gets the first measurement, and
    sets `sensor_id` then. -/
theorem AnnouncesOnce.opening {r : RecordRead} (honce : AnnouncesOnce sensor.serial history r)
    (h : Announced sensor history) :
    let ms := insertedOf sensor.serial history ++ if r.complete then [r.data] else []
    (openingOf sensor.serial (insertedOf sensor.serial history) ++
        if sensor.sensorId = firstSensorId then [.opened sensor.serial r.data.id] else []) =
      openingOf sensor.serial ms ∧
    (if sensor.sensorId = firstSensorId then r.data.id else sensor.sensorId) =
      (ms.head?.map Measurement.id).getD firstSensorId := by
  have hsensor := h.sensorId
  unfold AnnouncesOnce at honce
  cases hms : insertedOf sensor.serial history with
  | nil =>
    rw [hms] at honce hsensor
    have hfirst : sensor.sensorId = firstSensorId := hsensor
    have hcomplete : r.complete = true := honce
    rw [if_pos hcomplete, if_pos hfirst, if_pos hfirst]
    exact ⟨rfl, rfl⟩
  | cons m ms =>
    rw [hms] at honce hsensor
    have hnot : ¬ sensor.sensorId = firstSensorId := fun hfirst => honce (hsensor.symm.trans hfirst)
    rw [if_neg hnot, if_neg hnot]
    exact ⟨rfl, hsensor⟩

/-- A read that announces once leaves the connection announced. -/
theorem Announced.hear (h : Announced sensor history) {input : RecordInput} {revents : PollEvents}
    (honce : revents.pollin = true →
      AnnouncesOnce sensor.serial history (readRecord sensor.socket input)) :
    Announced (hearSensor input revents sensor).sensor
      (history ++ .tested sensor.serial revents :: (hearSensor input revents sensor).events) := by
  obtain ⟨hmessages, hid⟩ := hearSensor_messages input revents sensor
  obtain ⟨-, hinserted⟩ := hearSensor_history input revents sensor
  have hmessages' : messagesIn
      (history ++ .tested sensor.serial revents :: (hearSensor input revents sensor).events) =
        messagesIn history ++ messagesIn (hearSensor input revents sensor).events :=
    messagesIn_append history _
  have hinserted' : insertedOf sensor.serial
      (history ++ .tested sensor.serial revents :: (hearSensor input revents sensor).events) =
        insertedOf sensor.serial history ++
          insertedOf sensor.serial (hearSensor input revents sensor).events :=
    insertedOf_append history _
  by_cases hin : revents.pollin = true
  · obtain ⟨hopening, hset⟩ := (honce hin).opening h
    simp only [hin, true_and] at hmessages hid hinserted
    constructor
    · rw [hmessages', hearSensor_serial, hinserted', hmessages, hinserted, h.messages]
      exact hopening
    · rw [hid, hearSensor_serial, hinserted', hinserted]
      exact hset
  · simp only [hin, Bool.false_eq_true, false_and, if_false] at hmessages hid hinserted
    constructor
    · rw [hmessages', hearSensor_serial, hinserted', hmessages, hinserted, List.append_nil,
        List.append_nil]
      exact h.messages
    · rw [hid, hearSensor_serial, hinserted', hinserted, List.append_nil]
      exact h.sensorId

/-- A read that does not announce once breaks the protocol. -/
theorem Announced.not_logProtocol (h : Announced sensor history) {input : SensorInput}
    {revents : PollEvents} (hin : revents.pollin = true)
    (hnot : ¬ AnnouncesOnce sensor.serial history (readRecord sensor.socket input.record)) :
    ¬ LogProtocol sensor.serial
      (history ++ (serveSensor timeout input revents sensor).events) := by
  intro hprotocol
  have hcount := hprotocol.countP_opens
  obtain ⟨-, hinserted⟩ := serveSensor_history timeout input revents sensor
  rw [insertedOf_append, hinserted, List.countP_append, h.logProtocol.countP_opens] at hcount
  have hsensor := h.sensorId
  unfold AnnouncesOnce at hnot
  -- the read announces the connection, whatever was announced before
  have hfirst : sensor.sensorId = firstSensorId := by
    rw [hsensor]
    cases hms : insertedOf sensor.serial history with
    | nil => rfl
    | cons m ms =>
      rw [hms] at hnot
      exact not_not.mp hnot
  have hopens :
      1 ≤ (serveSensor timeout input revents sensor).events.countP ConnmgrEvent.opens := by
    apply List.one_le_countP_iff.mpr
    refine ⟨.opened sensor.serial (readRecord sensor.socket input.record).data.id, ?_, rfl⟩
    have hmem : ConnmgrEvent.opened sensor.serial (readRecord sensor.socket input.record).data.id ∈
        messagesIn (hearSensor input.record revents sensor).events := by
      rw [(hearSensor_messages input.record revents sensor).1, if_pos ⟨hin, hfirst⟩]
      exact List.mem_singleton_self _
    have hheard := List.mem_cons_of_mem (.tested sensor.serial revents)
      (List.mem_of_mem_filter hmem)
    obtain ⟨-, ⟨-, hevents⟩ | ⟨e, -, -, hevents⟩⟩ :=
      serveSensor_closing timeout input revents sensor
    · rw [hevents]
      exact hheard
    · rw [hevents]
      exact List.mem_append_left _ hheard
  cases hms : insertedOf sensor.serial history with
  | nil =>
    rw [hms] at hnot hcount
    rw [if_neg fun hboth => hnot hboth.2] at hcount
    have hzero : 0 + List.countP _ _ = 0 := hcount
    omega
  | cons m ms =>
    rw [hms] at hcount
    have hone : 1 + List.countP _ _ = 1 := hcount
    omega

/-- A pass that announces once keeps the protocol, and the connection announced if it stays. -/
theorem Announced.pass (h : Announced sensor history) {input : SensorInput} {revents : PollEvents}
    (honce : revents.pollin = true →
      AnnouncesOnce sensor.serial history (readRecord sensor.socket input.record)) :
    LogProtocol sensor.serial (history ++ (serveSensor timeout input revents sensor).events) ∧
      (¬ Leaves timeout input revents sensor →
        Announced (serveSensor timeout input revents sensor).sensor
          (history ++ (serveSensor timeout input revents sensor).events)) := by
  have hheard := h.hear honce
  have hserial := hearSensor_serial input.record revents sensor
  obtain ⟨hsensor, ⟨hstays, hevents⟩ | ⟨e, he, hleaves, hevents⟩⟩ :=
    serveSensor_closing timeout input revents sensor
  · rw [hsensor, hevents]
    exact ⟨hserial ▸ hheard.logProtocol, fun _ => hheard⟩
  · rw [hevents, ← List.append_assoc]
    refine ⟨?_, fun hnot => absurd hleaves hnot⟩
    rw [← hserial] at he
    exact hserial ▸ hheard.close he

/-! ## Runs -/

/-- Every connection keeps the protocol. -/
def KeepsProtocol (s : Connmgr) : Prop := ∀ serial, LogProtocol serial (eventsOf serial s.log)

/-- Every connection that the iteration reads is announced once: one that has delivered nothing yet
    has a measurement to read, and the first id of one that has is not 0. -/
def AnnouncesEach (timeout : Int) (s : Connmgr) (input : IterationInput) : Prop :=
  ∀ k sensor, s.connections[k]? = some sensor → s.ReadsAt timeout input k →
    AnnouncesOnce sensor.serial s.log (readRecord sensor.socket (input.sensor k).record)

/-- The invariant: what is in the list is announced. -/
structure LogKept (s : Connmgr) : Prop where
  numbered : Numbered s
  below : LogBelow s
  announced : ∀ sensor ∈ s.connections, Announced sensor (eventsOf sensor.serial s.log)
  protocol : KeepsProtocol s

theorem logKept_serverCreate (sd : Nat) (fd : Nat → PollFd) (time : Int) :
    LogKept (serverCreate sd fd time) where
  numbered := numbered_serverCreate sd fd time
  below := by simp [LogBelow, serverCreate]
  announced := by simp [serverCreate]
  protocol := fun _ => logProtocol_nil

theorem announcesOnce_eventsOf {log : List ConnmgrEvent} {r : RecordRead} :
    AnnouncesOnce serial (eventsOf serial log) r ↔ AnnouncesOnce serial log r := by
  unfold AnnouncesOnce
  rw [insertedOf_eventsOf]

theorem logKept_of_iterated (h : LogKept s) (hit : Iterated timeout s input s')
    (honce : AnnouncesEach timeout s input) : LogKept s' := by
  have hpass : ∀ k sensor, s.connections[k]? = some sensor → s.ReachedAt timeout input k →
      LogProtocol sensor.serial
          (eventsOf sensor.serial s.log ++ (s.passAt timeout input k sensor).events) ∧
        (¬ Leaves timeout (input.sensor k) (s.polled input k) sensor →
          Announced (s.passAt timeout input k sensor).sensor
            (eventsOf sensor.serial s.log ++ (s.passAt timeout input k sensor).events)) := by
    intro k sensor hk hreached
    apply (h.announced sensor (List.mem_of_getElem? hk)).pass
    intro hin
    exact announcesOnce_eventsOf.mpr (honce k sensor hk (readsAt_iff.mpr ⟨hin, hreached⟩))
  refine ⟨numbered_of_iterated h.numbered hit, logBelow_of_iterated h.below h.numbered hit, ?_, ?_⟩
  · intro c hc
    rcases hit.mem_connections hc with hc | ⟨k, sensor, hk, ⟨hreached, hstays, rfl⟩ | ⟨hnot, rfl⟩⟩
    · -- the new connection has no events yet
      obtain ⟨hserial, hid, -⟩ := serial_of_mem_newSensors hc
      have hnone : eventsOf c.serial s'.log = [] := by
        rw [hserial, hit.eventsOf_of_not_mem, h.below.eventsOf_accepted]
        intro sensor hsensor heq
        have := h.numbered.serial_lt sensor.link (List.mem_map_of_mem hsensor)
        rw [SensorSocket.link, heq] at this
        exact lt_irrefl _ this
      rw [hnone]
      exact ⟨rfl, hid⟩
    · rw [Connmgr.passAt_serial, hit.eventsOf_of_reachedAt h.numbered hk hreached]
      exact (hpass k sensor hk hreached).2 hstays
    · rw [hit.eventsOf_of_not_reachedAt h.numbered hk hnot]
      exact h.announced c (List.mem_of_getElem? hk)
  · intro serial
    rcases hit.eventsOf_cases h.numbered serial with heq | ⟨k, sensor, hk, rfl, hreached, heq⟩
    · rw [heq]
      exact h.protocol serial
    · rw [heq]
      exact (hpass k sensor hk hreached).1

theorem not_keepsProtocol_of_iterated (h : LogKept s) (hit : Iterated timeout s input s')
    (hnot : ¬ AnnouncesEach timeout s input) : ¬ KeepsProtocol s' := by
  unfold AnnouncesEach at hnot
  push Not at hnot
  obtain ⟨k, sensor, hk, hreads, hagain⟩ := hnot
  obtain ⟨hin, hreached⟩ := readsAt_iff.mp hreads
  intro hkeeps
  have hprotocol := hkeeps sensor.serial
  rw [hit.eventsOf_of_reachedAt h.numbered hk hreached] at hprotocol
  rw [← announcesOnce_eventsOf] at hagain
  exact (h.announced sensor (List.mem_of_getElem? hk)).not_logProtocol hin hagain hprotocol

/-- The log messages of every connection are the opening one with the id of its first measurement,
    exactly if it delivered one, and then at most one closing message, if and only if no connection
    is read without a measurement before its first one, or again after a first id of 0. -/
theorem log_protocol_iff (timeout : Int) (sd : Nat) (fd : Nat → PollFd) (time : Int)
    (inputs : List IterationInput) :
    Along (iterate timeout) KeepsProtocol (serverCreate sd fd time) inputs ↔
      Meets (iterate timeout) (AnnouncesEach timeout) (serverCreate sd fd time) inputs := by
  apply along_iff_meets (I := LogKept) (L := fun _ _ => True)
  · intro s h
    exact h.protocol
  · intro s input s' h _ honce hs
    exact logKept_of_iterated h (iterated_of_iterate hs) honce
  · intro s input s' h _ hnot hs
    exact not_keepsProtocol_of_iterated h (iterated_of_iterate hs) hnot
  · exact logKept_serverCreate sd fd time
  · exact meets_true

/-- A record of sensor 0 with the value bits 772, made at time 1286. -/
def sampleZero : IterationInput :=
  sampleRead false [0, 0] [4, 3, 0, 0, 0, 0, 0, 0] [6, 5, 0, 0, 0, 0, 0, 0]

/-- A sensor with id 0 is announced with each of its two records; and a client that hangs up without
    a record is announced with what is left on the stack. -/
theorem log_protocol_fails :
    (∃ s, run (iterate 5) sampleServer [sampleInput (some 4), sampleZero, sampleZero] = some s ∧
        insertedOf 0 s.log = [⟨0, 772, 1286⟩, ⟨0, 772, 1286⟩] ∧
        messagesIn (eventsOf 0 s.log) = [.opened 0 0, .opened 0 0] ∧ ¬ KeepsProtocol s) ∧
      ∃ s, run (iterate 5) sampleServer [sampleInput (some 4), sampleRead true [] [] []] = some s ∧
        insertedOf 0 s.log = [] ∧
        messagesIn (eventsOf 0 s.log) = [.opened 0 0, .closed 0 0] ∧ ¬ KeepsProtocol s := by
  constructor
  · refine ⟨_, rfl, by decide, by decide, ?_⟩
    intro hkeeps
    exact absurd (hkeeps 0).countP_opens (by decide)
  · refine ⟨_, rfl, by decide, by decide, ?_⟩
    intro hkeeps
    exact absurd (hkeeps 0).countP_opens (by decide)

end SensorGateway
