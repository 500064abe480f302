import SensorGateway.Connmgr.Proofs.BoundsProofs

/-!
# The poll table and the connection list stay aligned

Entry `j + 1` of the table belongs to the connection at position `j` of the list. Accepting appends
to both; removing the connection at position `k` erases position `k` of the list and shifts the
table from entry `k + 1` on, over the entry of a connection accepted in the same iteration.
-/

namespace SensorGateway

open Transition Connmgr

variable {timeout : Int} {input : IterationInput} {s s' : Connmgr}

/-- The entry polls the socket for both events. -/
def PollFd.Polls (entry : PollFd) (socket : Option Nat) : Prop :=
  ∃ sd : Nat, socket = some sd ∧ entry.fd = sd ∧ entry.events = .both

/-- The entries from 1 on belong to the connections. -/
def TableFor (fd : Nat → PollFd) (links : List (Nat × Option Nat)) : Prop :=
  ∀ j link, links[j]? = some link → (fd (j + 1)).Polls link.2

def Connmgr.links (s : Connmgr) : List (Nat × Option Nat) := s.connections.map SensorSocket.link

/-- The serials of the connections are distinct numbers below the number of accepted ones. -/
structure Numbered (s : Connmgr) : Prop where
  serial_lt : ∀ link ∈ s.links, link.1 < s.accepted
  nodup : (s.links.map Prod.fst).Nodup

/-- The table is aligned with the list. -/
structure Aligned (s : Connmgr) : Prop where
  server : (s.fd 0).fd = s.socket
  table : TableFor s.fd s.links

def Accept.isOk : Accept → Bool
  | .ok _ => true
  | .error _ => false

/-- `accept` succeeds when the iteration calls it. -/
def AcceptSucceeds (s : Connmgr) (input : IterationInput) : Prop :=
  s.accepts input = true → input.accept.isOk = true

instance (s : Connmgr) (input : IterationInput) : Decidable (AcceptSucceeds s input) :=
  inferInstanceAs (Decidable (_ → _))

theorem aligned_serverCreate (sd : Nat) (fd : Nat → PollFd) (time : Int) :
    Aligned (serverCreate sd fd time) where
  server := by simp [serverCreate]
  table := by simp [TableFor, Connmgr.links, serverCreate]

theorem numbered_serverCreate (sd : Nat) (fd : Nat → PollFd) (time : Int) :
    Numbered (serverCreate sd fd time) where
  serial_lt := by simp [Connmgr.links, serverCreate]
  nodup := by simp [Connmgr.links, serverCreate]

/-! ## The table -/

/-- Shifting the table from entry `k + 1` on erases position `k`. -/
theorem TableFor.shift {fd : Nat → PollFd} {links : List (Nat × Option Nat)} {k size : Nat}
    (h : TableFor fd links) (hsize : links.length ≤ size + 1) :
    TableFor (shiftArray fd (k + 1) (size + 1)) (links.eraseIdx k) := by
  intro j link hj
  rw [shiftArray_apply]
  by_cases hjk : j < k
  · rw [List.getElem?_eraseIdx_of_lt hjk] at hj
    rw [if_neg (by omega)]
    exact h j link hj
  · rw [List.getElem?_eraseIdx_of_ge (by omega)] at hj
    have hlt := (List.getElem?_eq_some_iff.mp hj).1
    rw [if_pos (by omega)]
    exact h (j + 1) link hj

/-- Before the loop the table belongs to the old connections and the new one. -/
theorem tableFor_preparedFd (h : Aligned s) (hok : AcceptSucceeds s input) :
    TableFor (s.preparedFd input) (s.links ++ (s.newSensors input).map SensorSocket.link) := by
  intro j link hj
  have hlen : s.links.length = s.connections.length := List.length_map _
  by_cases hlt : j < s.connections.length
  · rw [List.getElem?_append_left (by omega)] at hj
    obtain ⟨sd, hsocket, hfd, hevents⟩ := h.table j link hj
    refine ⟨sd, hsocket, ?_, ?_⟩ <;> simpa [preparedFd, Nat.succ_le_of_lt hlt]
  · rw [List.getElem?_append_right (by omega)] at hj
    unfold newSensors at hj
    split_ifs at hj with haccepts
    · obtain ⟨sd, hsd⟩ : ∃ sd, input.accept = .ok sd := by
        have hisOk := hok haccepts
        cases haccept : input.accept with
        | ok sd => exact ⟨sd, rfl⟩
        | error stale => simp [haccept, Accept.isOk] at hisOk
      obtain rfl : j = s.connections.length := by
        have := (List.getElem?_eq_some_iff.mp hj).1
        simp at this
        omega
      obtain rfl : SensorSocket.link _ = link := by simpa [hlen] using hj
      refine ⟨sd, by simp [SensorSocket.link, hsd, newSocket], ?_, ?_⟩
      · simp [preparedFd, haccepts, hsd, newSocket, tcpGetSd]
      · simp [preparedFd, haccepts]
    · simp at hj

/-- The polled `revents` of a connection is the report on its own descriptor. -/
theorem Aligned.polled (h : Aligned s) (input : IterationInput) {j : Nat} {sensor : SensorSocket}
    (hj : s.connections[j]? = some sensor) :
    ∃ sd, sensor.socket = some sd ∧ s.polled input j = input.report sd := by
  obtain ⟨sd, hsocket, hfd, hevents⟩ := h.table j sensor.link (by simp [Connmgr.links, hj])
  exact ⟨sd, hsocket, pollEntry_revents hfd hevents⟩

/-! ## One iteration -/

/-- The links after an iteration: the new connection comes in, and at most one that leaves goes; a
    connection is only closed when it goes. -/
theorem Iterated.links (hit : Iterated timeout s input s') :
    let new := (s.newSensors input).map SensorSocket.link
    ((s.served timeout input).removed = none ∧ s'.links = s.links ++ new ∧
        ∀ e ∈ (s.served timeout input).events, e.closes = false) ∨
      ∃ k sensor, (s.served timeout input).removed = some k ∧ s.connections[k]? = some sensor ∧
        Leaves timeout (input.sensor k) (s.polled input k) sensor ∧
        s'.links = s.links.eraseIdx k ++ new ∧
        ∀ e ∈ (s.served timeout input).events, e.closes = true → e.serial = sensor.serial := by
  have hspec := serveAll_spec timeout input (s.polled input) 0 s.connections
  simp only [Nat.zero_add] at hspec
  rw [Connmgr.links, hit.connections, List.map_append]
  rcases hspec with ⟨hnone, hlinks, hevents⟩ | ⟨k, sensor, hsome, hk, hleaves, hlinks, hevents⟩
  · exact .inl ⟨hnone, by rw [Connmgr.served, hlinks]; rfl, hevents⟩
  · exact .inr ⟨k, sensor, hsome, hk, hleaves, by rw [Connmgr.served, hlinks]; rfl, hevents⟩

theorem newSensors_serial {link : Nat × Option Nat}
    (h : link ∈ (s.newSensors input).map SensorSocket.link) :
    link.1 = s.accepted ∧ (s.newSensors input).length = 1 := by
  unfold newSensors at h ⊢
  split_ifs at h ⊢
  · obtain rfl : link = _ := by simpa using h
    exact ⟨rfl, rfl⟩
  · simp at h

/-- The links of the old connections and the new one have distinct serials below the new count. -/
theorem Numbered.links_append (h : Numbered s) (input : IterationInput) :
    (∀ link ∈ s.links ++ (s.newSensors input).map SensorSocket.link,
        link.1 < s.accepted + (s.newSensors input).length) ∧
      ((s.links ++ (s.newSensors input).map SensorSocket.link).map Prod.fst).Nodup := by
  constructor
  · intro link hmem
    rcases List.mem_append.mp hmem with hmem | hmem
    · have := h.serial_lt link hmem
      omega
    · obtain ⟨hserial, hlen⟩ := newSensors_serial hmem
      omega
  · rw [List.map_append, List.nodup_append]
    refine ⟨h.nodup, ?_, fun a ha b hb => ?_⟩
    · unfold newSensors
      split_ifs <;> simp
    · obtain ⟨old, hold, rfl⟩ := List.mem_map.mp ha
      obtain ⟨new, hnew, rfl⟩ := List.mem_map.mp hb
      have := h.serial_lt old hold
      have := (newSensors_serial hnew).1
      omega

/-- The links of the old connections and the new one, without the position that is removed. -/
theorem Iterated.links_sublist (hit : Iterated timeout s input s') :
    s'.links.Sublist (s.links ++ (s.newSensors input).map SensorSocket.link) := by
  rcases hit.links with ⟨-, hlinks, -⟩ | ⟨k, sensor, -, -, -, hlinks, -⟩
  · rw [hlinks]
  · rw [hlinks]
    exact (List.eraseIdx_sublist _ _).append (List.Sublist.refl _)

theorem numbered_of_iterated (h : Numbered s) (hit : Iterated timeout s input s') :
    Numbered s' := by
  obtain ⟨hlt, hnodup⟩ := h.links_append input
  have hsub := hit.links_sublist
  refine ⟨?_, hnodup.sublist (hsub.map _)⟩
  intro link hmem
  rw [hit.accepted]
  exact hlt link (hsub.mem hmem)

theorem aligned_of_iterated (h : Aligned s) (hok : AcceptSucceeds s input)
    (hit : Iterated timeout s input s') : Aligned s' := by
  have htable := tableFor_preparedFd h hok
  have hlen : s.links.length = s.connections.length := List.length_map _
  have hnew : (s.newSensors input).length ≤ 1 := by
    rw [newSensors_length]
    split_ifs <;> simp
  have hserver : (s.preparedFd input 0).fd = s.socket := by simp [preparedFd, h.server]
  rcases hit.links with ⟨hnone, hlinks, -⟩ | ⟨k, sensor, hsome, hk, -, hlinks, -⟩
  · constructor
    · rw [hit.fd, hnone, hit.socket]
      exact hserver
    · rw [hit.fd, hnone, hlinks]
      exact htable
  · have hklt : k < s.links.length := by
      rw [hlen]
      exact (List.getElem?_eq_some_iff.mp hk).1
    rw [← List.eraseIdx_append_of_lt_length hklt] at hlinks
    constructor
    · rw [hit.fd, hsome, hit.socket, shiftRemoved, shiftArray_apply, if_neg (by omega)]
      exact hserver
    · rw [hit.fd, hsome, hlinks]
      exact htable.shift (by simp [hlen, hnew])

/-- The table is aligned with the list at the head of every iteration of every run whose accepts
    succeed. In the iteration each connection is tested with what `poll` reports on its own
    descriptor, and the only connection that is closed or dropped, if any, is one that its own
    report or its own silence makes leave. -/
theorem poll_table_aligned (timeout : Int) (sd : Nat) (fd : Nat → PollFd) (time : Int) (s : Connmgr)
    (h : ReachVia (iterate timeout) AcceptSucceeds (serverCreate sd fd time) s) :
    (s.fd 0).fd = sd ∧
    (∀ j sensor, s.connections[j]? = some sensor → (s.fd (j + 1)).Polls sensor.socket) ∧
    (s.connections.map SensorSocket.serial).Nodup ∧
    ∀ input s', AcceptSucceeds s input → iterate timeout s input = some s' →
      ∃ events, s'.log = s.log ++ events ∧
        (∀ serial revents, .tested serial revents ∈ events → ∃ sensor ∈ s.connections, ∃ d,
          sensor.serial = serial ∧ sensor.socket = some d ∧ revents = input.report d) ∧
        ((s'.links = s.links ++ (s.newSensors input).map SensorSocket.link ∧
            ∀ e ∈ events, e.closes = false) ∨
          ∃ k sensor d, s.connections[k]? = some sensor ∧ sensor.socket = some d ∧
            Leaves timeout (input.sensor k) (input.report d) sensor ∧
            s'.links = s.links.eraseIdx k ++ (s.newSensors input).map SensorSocket.link ∧
            ∀ e ∈ events, e.closes = true → e.serial = sensor.serial) := by
  obtain ⟨ha, hn, hsd⟩ : Aligned s ∧ Numbered s ∧ s.socket = sd := by
    refine h.invariant (P := fun s => Aligned s ∧ Numbered s ∧ s.socket = sd)
      ⟨aligned_serverCreate sd fd time, numbered_serverCreate sd fd time, rfl⟩ ?_
    rintro s input s' ⟨ha, hn, hsd⟩ hok hs
    have hit := iterated_of_iterate hs
    exact ⟨aligned_of_iterated ha hok hit, numbered_of_iterated hn hit, hit.socket.trans hsd⟩
  refine ⟨by rw [ha.server, hsd], ?_, ?_, fun input s' _ hs => ?_⟩
  · intro j sensor hj
    exact ha.table j sensor.link (by simp [Connmgr.links, hj])
  · simpa [Connmgr.links, Function.comp_def, SensorSocket.link] using hn.nodup
  · have hit := iterated_of_iterate hs
    refine ⟨_, hit.log, fun serial revents hmem => ?_, ?_⟩
    · obtain ⟨k, sensor, hk, hserial, htested⟩ := serveAll_events hmem
      obtain ⟨d, hsocket, hreport⟩ := ha.polled input hk
      refine ⟨sensor, List.mem_of_getElem? hk, d, hserial.symm, hsocket, ?_⟩
      rw [htested serial revents rfl, Nat.zero_add, hreport]
    · rcases hit.links with ⟨-, hlinks, hevents⟩ | ⟨k, sensor, -, hk, hleaves, hlinks, hevents⟩
      · exact .inl ⟨hlinks, hevents⟩
      · obtain ⟨d, hsocket, hreport⟩ := ha.polled input hk
        rw [hreport] at hleaves
        exact .inr ⟨k, sensor, d, hk, hsocket, hleaves, hlinks, hevents⟩

/-- In the third iteration a third client connects and the first one hangs up. -/
def sampleHangup : IterationInput :=
  { sampleInput (some 6) with report := fun sd => ⟨sd = 3, sd = 4⟩ }

theorem poll_table_aligned_sample :
    ∃ s s', runVia (iterate 5) AcceptSucceeds sampleServer
      [sampleInput (some 4), sampleInput (some 5)] = some s ∧
      iterate 5 s sampleHangup = some s' ∧ s.links = [(0, some 4), (1, some 5)] ∧
      s'.links = [(1, some 5), (2, some 6)] ∧ (s.fd 0).fd = 3 ∧
      ∃ events, s'.log = s.log ++ events ∧
        (∀ serial revents, .tested serial revents ∈ events → ∃ sensor ∈ s.connections, ∃ d,
          sensor.serial = serial ∧ sensor.socket = some d ∧
            revents = sampleHangup.report d) := by
  obtain ⟨s, hs⟩ : ∃ s, runVia (iterate 5) AcceptSucceeds sampleServer
      [sampleInput (some 4), sampleInput (some 5)] = some s := ⟨_, rfl⟩
  have h := poll_table_aligned 5 3 _ 0 s (reachVia_of_runVia hs)
  obtain rfl : s = _ := (Option.some.inj hs).symm
  obtain ⟨events, hlog, htested, -⟩ := h.2.2.2 sampleHangup _ (fun _ => rfl) rfl
  exact ⟨_, _, rfl, rfl, rfl, rfl, h.1, events, hlog, htested⟩

end SensorGateway
