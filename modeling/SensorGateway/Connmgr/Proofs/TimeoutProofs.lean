import SensorGateway.Connmgr.Proofs.FramingProofs

/-!
# The timeout test and the two clocks

The timeout test compares the gateway's clock with `last_record`, which is the gateway's clock at
the acceptance of a connection, but from its first record on the time stamp that the sensor node put
into its last record. The runs here also say when, on the gateway's clock, each record is read.
-/

namespace SensorGateway

open Transition Connmgr LittleEndian

variable {timeout : Int} {input : IterationInput} {s s' : Connmgr} {serial : Nat}

/-! ## Runs on the gateway's clock -/

/-- When the gateway accepted a connection, and of its last record the gateway's clock at the
    reading and the time stamp in it. -/
structure Contact where
  acceptedAt : Int
  record : Option (Int × Int)
deriving DecidableEq, Repr

/-- The later of the acceptance and the reading of the last record, on the gateway's clock. -/
def Contact.heard (contact : Contact) : Int :=
  match contact.record with
  | none => contact.acceptedAt
  | some (clock, _) => max contact.acceptedAt clock

/-- What the gateway takes for it. -/
def Contact.lastRecord (contact : Contact) : Int :=
  match contact.record with
  | none => contact.acceptedAt
  | some (_, stamp) => stamp

def Contact.read (contact : Contact) (clock : Int) (data : Measurement) : Contact :=
  { contact with record := some (clock, data.ts.toInt) }

@[simp] theorem Contact.lastRecord_read (contact : Contact) (clock : Int) (data : Measurement) :
    (contact.read clock data).lastRecord = data.ts.toInt := rfl

structure TimedInput extends IterationInput where
  /-- the gateway's clock when it reads the record of the connection at an index of the list -/
  readTime : Nat → Int

/-- A timeout test that closes a connection: the clock in the test and the time the gateway has
    heard of the connection. -/
structure TimeoutTest where
  serial : Nat
  now : Int
  heard : Int
deriving DecidableEq, Repr

structure Timed where
  connmgr : Connmgr
  contact : Nat → Contact
  timeouts : List TimeoutTest

/-- The position of a connection in the list. -/
def Connmgr.indexOf (s : Connmgr) (serial : Nat) : Nat :=
  s.connections.findIdx fun sensor => sensor.serial = serial

/-- The contact of a connection after an iteration that added `events` to the log. -/
def Timed.contactAfter (t : Timed) (input : TimedInput) (events : List ConnmgrEvent)
    (serial : Nat) : Contact :=
  if serial = t.connmgr.accepted then ⟨input.acceptTime, none⟩
  else
    match insertedOf serial events with
    | [] => t.contact serial
    | data :: _ => (t.contact serial).read (input.readTime (t.connmgr.indexOf serial)) data

/-- The timeout tests that closed a connection in an iteration that added `events` to the log. -/
def Timed.timeoutsOf (t : Timed) (input : TimedInput) (events : List ConnmgrEvent) :
    List TimeoutTest :=
  events.filterMap fun
    | .timedOut serial _ =>
      some ⟨serial, (input.sensor (t.connmgr.indexOf serial)).now,
        (t.contactAfter input events serial).heard⟩
    | _ => none

/-- An iteration with its record of the clock. -/
def timedIterate (timeout : Int) (t : Timed) (input : TimedInput) : Option Timed :=
  (iterate timeout t.connmgr input.toIterationInput).map fun s' =>
    let events := s'.log.drop t.connmgr.log.length
    { connmgr := s'
      contact := t.contactAfter input events
      timeouts := t.timeouts ++ t.timeoutsOf input events }

def timedCreate (sd : Nat) (fd : Nat → PollFd) (time : Int) : Timed where
  connmgr := serverCreate sd fd time
  contact := fun _ => ⟨time, none⟩
  timeouts := []

/-- Every connection that was timed out had been silent for more than `TIMEOUT` on the gateway's
    clock. -/
def SilentWhenTimedOut (timeout : Int) (t : Timed) : Prop :=
  ∀ test ∈ t.timeouts, test.now > test.heard + timeout

/-- The contact of the connection at index `k` when its timeout test is made. -/
def Timed.contactAt (t : Timed) (input : TimedInput) (k : Nat) (sensor : SensorSocket) : Contact :=
  let r := readRecord sensor.socket (input.sensor k).record
  if (t.connmgr.polled input.toIterationInput k).pollin ∧ r.complete then
    (t.contact sensor.serial).read (input.readTime k) r.data
  else t.contact sensor.serial

/-- No timeout test of a connection that has not hung up falls after the deadline of its last time
    stamp, or of its acceptance before the first record, but not after `TIMEOUT` of silence. -/
def StampsKeepUp (timeout : Int) (t : Timed) (input : TimedInput) : Prop :=
  ∀ k sensor, t.connmgr.connections[k]? = some sensor →
    t.connmgr.ReachedAt timeout input.toIterationInput k →
    (t.connmgr.polled input.toIterationInput k).pollrdhup = false →
    ¬ (deadline (t.contactAt input k sensor).lastRecord timeout < (input.sensor k).now ∧
      (input.sensor k).now ≤ (t.contactAt input k sensor).heard + timeout)

/-! ## The timeout test -/

theorem timedOut_mem_serveSensor {input : SensorInput} {revents : PollEvents}
    {sensor : SensorSocket} :
    (∃ id, .timedOut serial id ∈ (serveSensor timeout input revents sensor).events) ↔
      serial = sensor.serial ∧ revents.pollrdhup = false ∧
        input.now > deadline (lastHeard input.record revents sensor) timeout := by
  have hno : ∀ id, .timedOut serial id ∉ ConnmgrEvent.tested sensor.serial revents ::
      (hearSensor input.record revents sensor).events := by
    intro id hmem
    rcases List.mem_cons.mp hmem with heq | hmem
    · cases heq
    · exact Bool.false_ne_true (hearSensor_events hmem).2.1.symm
  rw [← hearSensor_lastRecord]
  simp only [serveSensor]
  split_ifs with hup hold
  · constructor
    · rintro ⟨id, hmem⟩
      rcases List.mem_append.mp hmem with hmem | hmem
      · exact absurd hmem (hno id)
      · cases List.mem_singleton.mp hmem
    · rintro ⟨-, hnot, -⟩
      rw [hup] at hnot
      cases hnot
  · constructor
    · rintro ⟨id, hmem⟩
      rcases List.mem_append.mp hmem with hmem | hmem
      · exact absurd hmem (hno id)
      · cases List.mem_singleton.mp hmem
        exact ⟨rfl, by simpa using hup, hold⟩
    · rintro ⟨rfl, -, -⟩
      exact ⟨_, List.mem_append_right _ (List.mem_singleton_self _)⟩
  · constructor
    · rintro ⟨id, hmem⟩
      exact absurd hmem (hno id)
    · rintro ⟨-, -, hold'⟩
      exact absurd hold' hold

variable {t t' : Timed} {input : TimedInput}

/-- The invariant: what the gateway takes for the last contact is the acceptance or the last
    stamp. -/
structure TimedKept (timeout : Int) (t : Timed) : Prop where
  numbered : Numbered t.connmgr
  lastRecord : ∀ sensor ∈ t.connmgr.connections,
    sensor.lastRecord = (t.contact sensor.serial).lastRecord
  silent : SilentWhenTimedOut timeout t

theorem timedKept_timedCreate (sd : Nat) (fd : Nat → PollFd) (time : Int) :
    TimedKept timeout (timedCreate sd fd time) where
  numbered := numbered_serverCreate sd fd time
  lastRecord := by simp [timedCreate, serverCreate]
  silent := by simp [SilentWhenTimedOut, timedCreate]

theorem Numbered.indexOf (h : Numbered s) {k : Nat} {sensor : SensorSocket}
    (hk : s.connections[k]? = some sensor) : s.indexOf sensor.serial = k := by
  obtain ⟨hlt, hget⟩ := List.getElem?_eq_some_iff.mp hk
  unfold Connmgr.indexOf
  have hfound : s.connections.findIdx (fun c => c.serial = sensor.serial) <
      s.connections.length := by
    apply List.findIdx_lt_length.mpr
    exact ⟨sensor, List.mem_of_getElem? hk, by simp⟩
  have hserial := List.findIdx_getElem (w := hfound)
  exact h.serial_inj (List.getElem?_eq_getElem hfound) hk (by simpa using hserial)

theorem Numbered.serial_ne_accepted (h : Numbered s) {k : Nat} {sensor : SensorSocket}
    (hk : s.connections[k]? = some sensor) : sensor.serial ≠ s.accepted := by
  have := h.serial_lt sensor.link (List.mem_map_of_mem (List.mem_of_getElem? hk))
  exact Nat.ne_of_lt this

/-- The state after a timed iteration. -/
theorem timedIterate_eq_some (h : timedIterate timeout t input = some t') :
    Iterated timeout t.connmgr input.toIterationInput t'.connmgr ∧
      t'.contact = t.contactAfter input (t.connmgr.served timeout input.toIterationInput).events ∧
      t'.timeouts = t.timeouts ++
        t.timeoutsOf input (t.connmgr.served timeout input.toIterationInput).events := by
  obtain ⟨s', hs, rfl⟩ := Option.map_eq_some_iff.mp h
  have hit := iterated_of_iterate hs
  have hevents : s'.log.drop t.connmgr.log.length =
      (t.connmgr.served timeout input.toIterationInput).events := by
    rw [hit.log, List.drop_left]
  exact ⟨hit, by rw [hevents], by rw [hevents]⟩

/-- A connection that the loop comes to has after the iteration the contact of its timeout test. -/
theorem TimedKept.contactAfter_of_reachedAt (h : TimedKept timeout t) {k : Nat}
    {sensor : SensorSocket} (hk : t.connmgr.connections[k]? = some sensor)
    (hreached : t.connmgr.ReachedAt timeout input.toIterationInput k) :
    t.contactAfter input (t.connmgr.served timeout input.toIterationInput).events sensor.serial =
      t.contactAt input k sensor := by
  have hinserted : insertedOf sensor.serial
      (t.connmgr.served timeout input.toIterationInput).events =
        if (t.connmgr.polled input.toIterationInput k).pollin ∧
            (readRecord sensor.socket (input.sensor k).record).complete then
          [(readRecord sensor.socket (input.sensor k).record).data] else [] := by
    have hevents := (serveAll_eventsOf h.numbered.serials_nodup hk).1 hreached
    rw [Nat.zero_add] at hevents
    rw [← insertedOf_eventsOf, Connmgr.served, hevents]
    exact (serveSensor_history timeout (input.sensor k) _ sensor).2
  unfold Timed.contactAfter Timed.contactAt
  rw [if_neg (h.numbered.serial_ne_accepted hk), hinserted, h.numbered.indexOf hk]
  dsimp only
  split_ifs with hread
  · rfl
  · rfl

theorem TimedKept.contactAfter_of_not_reachedAt (h : TimedKept timeout t) {k : Nat}
    {sensor : SensorSocket} (hk : t.connmgr.connections[k]? = some sensor)
    (hnot : ¬ t.connmgr.ReachedAt timeout input.toIterationInput k) :
    t.contactAfter input (t.connmgr.served timeout input.toIterationInput).events sensor.serial =
      t.contact sensor.serial := by
  have hinserted : insertedOf sensor.serial
      (t.connmgr.served timeout input.toIterationInput).events = [] := by
    have hevents := (serveAll_eventsOf h.numbered.serials_nodup hk).2 hnot
    rw [← insertedOf_eventsOf, Connmgr.served, hevents]
    rfl
  unfold Timed.contactAfter
  rw [if_neg (h.numbered.serial_ne_accepted hk), hinserted]

/-- In its timeout test a connection is given the acceptance or the last stamp. -/
theorem TimedKept.lastHeard (h : TimedKept timeout t) {k : Nat} {sensor : SensorSocket}
    (hk : t.connmgr.connections[k]? = some sensor) :
    lastHeard (input.sensor k).record (t.connmgr.polled input.toIterationInput k) sensor =
      (t.contactAt input k sensor).lastRecord := by
  unfold SensorGateway.lastHeard Timed.contactAt
  dsimp only
  split_ifs with hread
  · rw [Contact.lastRecord_read]
  · exact h.lastRecord sensor (List.mem_of_getElem? hk)

/-- A connection is timed out in an iteration when the loop comes to it, it has not hung up, and the
    test finds `last_record` too old. -/
theorem TimedKept.mem_timeoutsOf (h : TimedKept timeout t) {test : TimeoutTest} :
    test ∈ t.timeoutsOf input (t.connmgr.served timeout input.toIterationInput).events ↔
      ∃ k sensor, t.connmgr.connections[k]? = some sensor ∧
        t.connmgr.ReachedAt timeout input.toIterationInput k ∧
        (t.connmgr.polled input.toIterationInput k).pollrdhup = false ∧
        (input.sensor k).now > deadline (t.contactAt input k sensor).lastRecord timeout ∧
        test = ⟨sensor.serial, (input.sensor k).now, (t.contactAt input k sensor).heard⟩ := by
  unfold Timed.timeoutsOf
  rw [List.mem_filterMap]
  constructor
  · rintro ⟨e, he, htest⟩
    obtain ⟨k, sensor, hk, hreached, hmem⟩ := h.numbered.mem_served_events.mp he
    cases e with
    | timedOut serial id =>
      obtain ⟨rfl, hup, hold⟩ := timedOut_mem_serveSensor.mp ⟨id, hmem⟩
      refine ⟨k, sensor, hk, hreached, hup, ?_, ?_⟩
      · rw [← h.lastHeard hk]
        exact hold
      · rw [← Option.some.inj htest, h.numbered.indexOf hk, h.contactAfter_of_reachedAt hk hreached]
    | tested _ _ => cases htest
    | received _ _ => cases htest
    | inserted _ _ => cases htest
    | opened _ _ => cases htest
    | closed _ _ => cases htest
  · rintro ⟨k, sensor, hk, hreached, hup, hold, rfl⟩
    rw [← h.lastHeard hk] at hold
    obtain ⟨id, hmem⟩ := timedOut_mem_serveSensor.mpr ⟨rfl, hup, hold⟩
    refine ⟨.timedOut sensor.serial id,
      h.numbered.mem_served_events.mpr ⟨k, sensor, hk, hreached, hmem⟩, ?_⟩
    dsimp only
    rw [h.numbered.indexOf hk, h.contactAfter_of_reachedAt hk hreached]

/-! ## Runs -/

theorem TimedKept.lastRecord_step (h : TimedKept timeout t)
    (hstep : timedIterate timeout t input = some t') :
    ∀ sensor ∈ t'.connmgr.connections,
      sensor.lastRecord = (t'.contact sensor.serial).lastRecord := by
  obtain ⟨hit, hcontact, -⟩ := timedIterate_eq_some hstep
  intro c hc
  rw [hcontact]
  rcases hit.mem_connections hc with hc | ⟨k, sensor, hk, ⟨hreached, -, rfl⟩ | ⟨hnot, rfl⟩⟩
  · obtain ⟨hserial, -, hlast⟩ := serial_of_mem_newSensors hc
    unfold Timed.contactAfter
    rw [if_pos hserial, hlast]
    rfl
  · rw [Connmgr.passAt_serial, h.contactAfter_of_reachedAt hk hreached, ← h.lastHeard hk,
      ← hearSensor_lastRecord]
    obtain ⟨hsensor, -⟩ := serveSensor_closing timeout (input.sensor k)
      (t.connmgr.polled input.toIterationInput k) sensor
    exact congrArg SensorSocket.lastRecord hsensor
  · rw [h.contactAfter_of_not_reachedAt hk hnot]
    exact h.lastRecord c (List.mem_of_getElem? hk)

/-- The tests of an iteration find a connection silent exactly when the stamps keep up. -/
theorem TimedKept.silent_iff (h : TimedKept timeout t)
    (hstep : timedIterate timeout t input = some t') :
    SilentWhenTimedOut timeout t' ↔ StampsKeepUp timeout t input := by
  obtain ⟨-, -, htimeouts⟩ := timedIterate_eq_some hstep
  unfold SilentWhenTimedOut
  rw [htimeouts]
  constructor
  · rintro hsilent k sensor hk hreached hup ⟨hold, hheard⟩
    have hmem := h.mem_timeoutsOf.mpr ⟨k, sensor, hk, hreached, hup, hold, rfl⟩
    have hnow := hsilent _ (List.mem_append_right _ hmem)
    exact absurd hheard (not_le.mpr hnow)
  · intro hkeep test htest
    rcases List.mem_append.mp htest with htest | htest
    · exact h.silent test htest
    · obtain ⟨k, sensor, hk, hreached, hup, hold, rfl⟩ := h.mem_timeoutsOf.mp htest
      by_contra hnot
      exact hkeep k sensor hk hreached hup ⟨hold, not_lt.mp hnot⟩

/-- A connection is only timed out after more than `TIMEOUT` of silence on the gateway's clock, if
    and only if no timeout test falls between the deadline of the last time stamp, which wraps
    around, and the later one of the last contact. -/
theorem silent_when_timed_out_iff (timeout : Int) (sd : Nat) (fd : Nat → PollFd) (time : Int)
    (inputs : List TimedInput) :
    Along (timedIterate timeout) (SilentWhenTimedOut timeout) (timedCreate sd fd time) inputs ↔
      Meets (timedIterate timeout) (StampsKeepUp timeout) (timedCreate sd fd time) inputs := by
  apply along_iff_meets (I := TimedKept timeout) (L := fun _ _ => True)
  · intro t h
    exact h.silent
  · intro t input t' h _ hkeep hstep
    obtain ⟨hit, -⟩ := timedIterate_eq_some hstep
    exact ⟨numbered_of_iterated h.numbered hit, h.lastRecord_step hstep,
      (h.silent_iff hstep).mpr hkeep⟩
  · intro t input t' h _ hkeep hstep hsilent
    exact hkeep ((h.silent_iff hstep).mp hsilent)
  · exact timedKept_timedCreate sd fd time
  · exact meets_true

/-- Every reading of the gateway's clock in the iteration is `clock`. -/
structure TimedInput.AllAt (input : TimedInput) (clock : Int) : Prop where
  acceptTime : input.acceptTime = clock
  idleTime : input.idleTime = clock
  readTime : ∀ k, input.readTime k = clock
  now : ∀ k, (input.sensor k).now = clock
  closeTime : ∀ k, (input.sensor k).closeTime = clock

/-- The iteration with every reading of the gateway's clock at 100. -/
def sampleTimed (input : IterationInput) : TimedInput where
  report := input.report
  accept := input.accept
  acceptTime := 100
  idleTime := 100
  sensor := fun k => { input.sensor k with now := 100, closeTime := 100 }
  readTime := fun _ => 100

theorem sampleTimed_allAt (input : IterationInput) : (sampleTimed input).AllAt 100 :=
  ⟨rfl, rfl, fun _ => rfl, fun _ => rfl, fun _ => rfl⟩

/-- A client connects and delivers a record with this time stamp. -/
def stampedRun (stamp : Int64) : List TimedInput :=
  [sampleTimed (sampleInput (some 4)),
    sampleTimed (sampleRead false [2, 1] [4, 3, 0, 0, 0, 0, 0, 0] (leBytes 8 stamp.toUInt64.toNat))]

theorem stampedRun_allAt (stamp : Int64) : ∀ input ∈ stampedRun stamp, input.AllAt 100 := by
  intro input hmem
  rcases List.mem_cons.mp hmem with rfl | hmem
  · exact sampleTimed_allAt _
  · rw [List.mem_singleton.mp hmem]
    exact sampleTimed_allAt _

/-- While the gateway's clock stands at 100, a client connects, delivers a record with this time
    stamp and is timed out at once. -/
def TimedOutAtOnce (stamp : Int64) : Prop :=
  (∀ input ∈ stampedRun stamp, input.AllAt 100) ∧
    ∃ t, run (timedIterate 5) (timedCreate 3 (fun _ => ⟨0, ⟨false, false⟩, ⟨false, false⟩⟩) 100)
        (stampedRun stamp) = some t ∧
      insertedOf 0 t.connmgr.log = [⟨258, 772, stamp⟩] ∧ .timedOut 0 258 ∈ t.connmgr.log ∧
      t.timeouts = [⟨0, 100, 100⟩] ∧ ¬ SilentWhenTimedOut 5 t

/-- So it goes with a time stamp of long ago, and with the largest one, whose deadline wraps
    around. -/
theorem silent_when_timed_out_fails : TimedOutAtOnce 0 ∧ TimedOutAtOnce Int64.maxValue := by
  constructor
  · refine ⟨stampedRun_allAt _, _, rfl, by decide, by decide, by decide, ?_⟩
    intro hsilent
    exact absurd (hsilent ⟨0, 100, 100⟩ (by decide)) (by decide)
  · refine ⟨stampedRun_allAt _, _, rfl, by decide, by decide, by decide, ?_⟩
    intro hsilent
    exact absurd (hsilent ⟨0, 100, 100⟩ (by decide)) (by decide)

end SensorGateway
