import SensorGateway.Connmgr.Proofs.FramingProofs

/-!
# The hang-up of a connection

The loop closes the first connection that hangs up, unless one before it leaves, and the event of
that is the last one of the iteration.
-/

namespace SensorGateway

open Transition Connmgr

variable {timeout : Int} {input : IterationInput} {s s' : Connmgr} {ms : Nat → List Measurement}

/-! ## The event of a hang-up -/

/-- No connection is closed because its client hung up. -/
def NoHangup (events : List ConnmgrEvent) : Prop := ∀ serial id, .closed serial id ∉ events

/-- Whenever a connection is closed because its client hung up, the measurements of the client have
    all been inserted before. -/
def Delivered (ms : Nat → List Measurement) (log : List ConnmgrEvent) : Prop :=
  ∀ before after serial id, log = before ++ .closed serial id :: after →
    insertedOf serial before = ms serial

theorem delivered_nil (ms : Nat → List Measurement) : Delivered ms [] := by
  intro before after serial id h
  simp at h

theorem delivered_concat {log : List ConnmgrEvent} {e : ConnmgrEvent} :
    Delivered ms (log ++ [e]) ↔ Delivered ms log ∧
      ∀ serial id, e = .closed serial id → insertedOf serial log = ms serial := by
  constructor
  · intro h
    constructor
    · intro before after serial id hlog
      exact h before (after ++ [e]) serial id (by simp [hlog])
    · rintro serial id rfl
      exact h log [] serial id rfl
  · rintro ⟨hlog, he⟩ before after serial id hsplit
    rcases List.eq_nil_or_concat after with rfl | ⟨after, last, rfl⟩
    · obtain ⟨rfl, hlast⟩ := List.append_inj' hsplit rfl
      exact he serial id (List.singleton_inj.mp hlast)
    · rw [List.concat_eq_append, ← List.cons_append, ← List.append_assoc] at hsplit
      exact hlog before after serial id (List.append_inj' hsplit rfl).1

theorem delivered_append_of_noHangup {log events : List ConnmgrEvent} (h : NoHangup events) :
    Delivered ms (log ++ events) ↔ Delivered ms log := by
  induction events using List.reverseRecOn with
  | nil => rw [List.append_nil]
  | append_singleton events e ih =>
    rw [← List.append_assoc, delivered_concat,
      ih fun serial id hmem => h serial id (List.mem_append_left _ hmem)]
    refine and_iff_left ?_
    intro serial id he
    exact absurd (List.mem_append_right events (List.mem_singleton.mpr he.symm)) (h serial id)

theorem noHangup_of_closes {events : List ConnmgrEvent} (h : ∀ e ∈ events, e.closes = false) :
    NoHangup events :=
  fun serial id hmem => absurd (h _ hmem) (by simp [ConnmgrEvent.closes])

/-! ## Which connection hangs up -/

/-- The loop closes the connection at an index because its client hung up. -/
def HangsUp (timeout : Int) (input : IterationInput) (revents : Nat → PollEvents) (i : Nat)
    (cs : List SensorSocket) (k : Nat) : Prop :=
  (revents (i + k)).pollrdhup = true ∧ Reached timeout input revents i cs k

theorem hangsUp_cons_succ {revents : Nat → PollEvents} {i k : Nat} {sensor : SensorSocket}
    {rest : List SensorSocket} :
    HangsUp timeout input revents i (sensor :: rest) (k + 1) ↔
      ¬ Leaves timeout (input.sensor i) (revents i) sensor ∧
        HangsUp timeout input revents (i + 1) rest k := by
  rw [HangsUp, HangsUp, reached_cons_succ, Nat.add_right_comm i 1 k, Nat.add_assoc]
  exact and_left_comm

theorem serveSensor_hangup (timeout : Int) (input : SensorInput) (revents : PollEvents)
    (sensor : SensorSocket) :
    let events := (serveSensor timeout input revents sensor).events
    (revents.pollrdhup = true → ∃ heard id,
      events = heard ++ [.closed sensor.serial id] ∧ NoHangup heard) ∧
    (revents.pollrdhup = false → NoHangup events) := by
  have hheard : ∀ e ∈ ConnmgrEvent.tested sensor.serial revents ::
      (hearSensor input.record revents sensor).events, e.closes = false := by
    intro e he
    rcases List.mem_cons.mp he with rfl | he
    · rfl
    · exact (hearSensor_events he).2.1
  intro events
  simp only [events, serveSensor]
  constructor
  · intro hup
    rw [if_pos hup]
    exact ⟨_, _, rfl, noHangup_of_closes hheard⟩
  · intro hup
    rw [if_neg (by simp [hup])]
    split_ifs
    · intro serial id hmem
      rcases List.mem_append.mp hmem with hmem | hmem
      · exact noHangup_of_closes hheard serial id hmem
      · simp at hmem
    · exact noHangup_of_closes hheard

/-- The hang-up is the last event of the loop, and there is none when no connection hangs up. -/
theorem serveAll_hangup (timeout : Int) (input : IterationInput) (revents : Nat → PollEvents)
    (i : Nat) (cs : List SensorSocket) :
    let events := (serveAll timeout input revents i cs).events
    (∀ k sensor, cs[k]? = some sensor → HangsUp timeout input revents i cs k →
      ∃ heard id, events = heard ++ [.closed sensor.serial id] ∧ NoHangup heard) ∧
    ((∀ k sensor, cs[k]? = some sensor → ¬ HangsUp timeout input revents i cs k) →
      NoHangup events) := by
  induction cs generalizing i with
  | nil =>
    constructor
    · intro k sensor hk
      simp at hk
    · intro _
      simp [serveAll, NoHangup]
  | cons head rest ih =>
    obtain ⟨hup, hstill⟩ := serveSensor_hangup timeout (input.sensor i) (revents i) head
    obtain ⟨ihup, ihstill⟩ := ih (i + 1)
    have hleaves := serveSensor_removed_iff timeout (input.sensor i) (revents i) head
    intro events
    by_cases hremoved : (serveSensor timeout (input.sensor i) (revents i) head).removed = true
    · have hevents : events = (serveSensor timeout (input.sensor i) (revents i) head).events := by
        simp only [events, serveAll, if_pos hremoved]
      rw [hevents]
      constructor
      · intro k sensor hk hhang
        cases k with
        | zero =>
          obtain rfl : head = sensor := by simpa using hk
          exact hup hhang.1
        | succ k => exact absurd (hleaves.mp hremoved) (hangsUp_cons_succ.mp hhang).1
      · intro hnone
        refine hstill (Bool.eq_false_iff.mpr ?_)
        intro hrdhup
        exact hnone 0 head rfl ⟨hrdhup, reached_zero⟩
    · have hevents : events = (serveSensor timeout (input.sensor i) (revents i) head).events ++
          (serveAll timeout input revents (i + 1) rest).events := by
        simp only [events, serveAll, if_neg hremoved]
      have hstays : ¬ Leaves timeout (input.sensor i) (revents i) head := mt hleaves.mpr hremoved
      have hhead := hstill (Bool.eq_false_iff.mpr fun hrdhup => hstays (.inl hrdhup))
      have happend : ∀ {events : List ConnmgrEvent}, NoHangup events →
          NoHangup ((serveSensor timeout (input.sensor i) (revents i) head).events ++ events) :=
        fun htail serial id hmem =>
          (List.mem_append.mp hmem).elim (hhead serial id) (htail serial id)
      rw [hevents]
      constructor
      · intro k sensor hk hhang
        cases k with
        | zero => exact absurd (.inl hhang.1) hstays
        | succ k =>
          obtain ⟨heard, id, htail, hheard⟩ :=
            ihup k sensor (by simpa using hk) (hangsUp_cons_succ.mp hhang).2
          exact ⟨_, id, by rw [htail, List.append_assoc], happend hheard⟩
      · intro hnone
        refine happend (ihstill ?_)
        intro k sensor hk hhang
        exact hnone (k + 1) sensor (by simpa using hk) (hangsUp_cons_succ.mpr ⟨hstays, hhang⟩)

/-- The iteration closes the connection at index `k` because its client hung up. -/
def Connmgr.HangsUpAt (timeout : Int) (s : Connmgr) (input : IterationInput) (k : Nat) : Prop :=
  HangsUp timeout input (s.polled input) 0 s.connections k

/-- What was delivered before an iteration stays delivered, and what hangs up in it is delivered if
    the iteration inserts what is left. -/
theorem Iterated.delivered_iff (hit : Iterated timeout s input s') :
    Delivered ms s'.log ↔ Delivered ms s.log ∧
      ∀ k sensor, s.connections[k]? = some sensor → s.HangsUpAt timeout input k →
        insertedOf sensor.serial s'.log = ms sensor.serial := by
  obtain ⟨hup, hstill⟩ := serveAll_hangup timeout input (s.polled input) 0 s.connections
  by_cases hhang : ∃ k sensor, s.connections[k]? = some sensor ∧ s.HangsUpAt timeout input k
  · obtain ⟨k, sensor, hk, hhangs⟩ := hhang
    obtain ⟨heard, id, hevents, hheard⟩ := hup k sensor hk hhangs
    have hlog : s'.log = s.log ++ heard ++ [.closed sensor.serial id] := by
      rw [hit.log, Connmgr.served, hevents, List.append_assoc]
    -- the event itself inserts nothing
    have hinserted : insertedOf sensor.serial s'.log =
        insertedOf sensor.serial (s.log ++ heard) := by
      rw [hlog, insertedOf_append _ [_]]
      exact List.append_nil _
    have huniq : ∀ j c, s.connections[j]? = some c → s.HangsUpAt timeout input j → c = sensor := by
      intro j c hj hhangsj
      rcases lt_trichotomy j k with hlt | rfl | hlt
      · exact absurd (.inl (by simpa using hhangsj.1)) (hhangs.2 j hlt c hj)
      · exact Option.some.inj (hj.symm.trans hk)
      · exact absurd (.inl (by simpa using hhangs.1)) (hhangsj.2 k hlt sensor hk)
    rw [hlog, delivered_concat, delivered_append_of_noHangup hheard, ← hlog]
    refine and_congr_right fun _ => ⟨fun h j c hj hhangsj => ?_, fun h serial id' he => ?_⟩
    · rw [huniq j c hj hhangsj, hinserted]
      exact h sensor.serial id rfl
    · obtain ⟨rfl, -⟩ := ConnmgrEvent.closed.inj he
      rw [← hinserted]
      exact h k sensor hk hhangs
  · have hnone : ∀ k sensor, s.connections[k]? = some sensor → ¬ s.HangsUpAt timeout input k :=
      fun k sensor hk hhangs => hhang ⟨k, sensor, hk, hhangs⟩
    rw [hit.log, Connmgr.served, delivered_append_of_noHangup (hstill hnone)]
    exact (and_iff_left fun k sensor hk hhangs => absurd hhangs (hnone k sensor hk)).symm

end SensorGateway
