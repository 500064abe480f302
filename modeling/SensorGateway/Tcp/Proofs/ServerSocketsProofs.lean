import SensorGateway.Connmgr.Proofs.IdleProofs
import SensorGateway.Connmgr.Proofs.ConnectionProofs
import SensorGateway.Tcp.Proofs.TcpsockProofs
import SensorGateway.Tcp.ServerSockets

/-!
# The connection manager closes what it accepts

Between two iterations the sockets on the heap are the listening one and those of the connections of
the list, one for each, with the descriptors that the list knows. So no iteration uses or closes a
socket that is gone.
-/

namespace SensorGateway

open Transition PtrHeap Connmgr

variable {sys : TcpSystem} {w v : TcpState} {held : List (Nat × Nat)} {strict : Bool} {p : Nat}

/-! ## The sockets that are held -/

/-- The sockets on the heap are those at these addresses, with these descriptors; in a strict
    account no other descriptor is open. -/
structure Holds (strict : Bool) (w : TcpState) (held : List (Nat × Nat)) : Prop where
  inv : TcpInv w
  nodup : (held.map Prod.fst).Nodup
  cells : ∀ x ∈ held, ∃ t, w.sockets.cells x.1 = some t ∧ t.sd = x.2
  only : ∀ p, w.sockets.cells p ≠ none → p ∈ held.map Prod.fst
  descriptors : strict = true → ∀ d ∈ w.descriptors, d ∈ held.map Prod.snd

theorem holds_empty (strict : Bool) : Holds strict .empty [] where
  inv := tcpInv_empty
  nodup := List.nodup_nil
  cells := fun x h => nomatch h
  only := fun p h => absurd rfl h
  descriptors := fun _ d h => by simp [TcpState.empty] at h

/-- A socket is opened. -/
theorem Holds.opened (h : Holds strict w held) {call : TcpCall} {b : Bool} {sock : Ptr}
    (heffect : TcpEffect w call b (.noError, sock, v))
    (hopens : ∀ socket shutdown, call ≠ .close socket shutdown) :
    ∃ p d : Nat, sock = some p ∧ Holds strict v (held ++ [(p, d)]) := by
  have hinv := tcpInv_effect h.inv heffect
  cases heffect with
  | failed code sock v hcode => exact absurd rfl hcode
  | lost code sock v sd hcode => exact absurd rfl hcode
  | closed v p t shutdown hcall => exact absurd hcall (hopens _ _)
  | opened v p d ipAddr port hcall hp hsd hip hs ht hd =>
    refine ⟨p, d, rfl, hinv, ?_, ?_, ?_, ?_⟩
    · rw [List.map_append, List.nodup_append]
      refine ⟨h.nodup, List.nodup_singleton p, ?_⟩
      intro q hq r hr
      obtain rfl := List.mem_singleton.mp hr
      obtain ⟨x, hx, rfl⟩ := List.mem_map.mp hq
      obtain ⟨t, hcell, -⟩ := h.cells x hx
      rintro rfl
      rw [hp] at hcell
      cases hcell
    · intro x hx
      rcases List.mem_append.mp hx with hx | hx
      · obtain ⟨t, hcell, hsd⟩ := h.cells x hx
        refine ⟨t, ?_, hsd⟩
        rw [hs, Function.update_of_ne ?_, hcell]
        intro heq
        rw [heq, hp] at hcell
        cases hcell
      · obtain rfl := List.mem_singleton.mp hx
        exact ⟨_, by rw [hs, Function.update_self], rfl⟩
    · intro q hq
      rw [List.map_append]
      by_cases hqp : q = p
      · simp [hqp]
      · rw [hs, Function.update_of_ne hqp] at hq
        exact List.mem_append_left _ (h.only q hq)
    · intro hstrict sd hmem
      rw [hd] at hmem
      rw [List.map_append]
      rcases Finset.mem_insert.mp hmem with rfl | hmem
      · simp
      · exact List.mem_append_left _ (h.descriptors hstrict sd hmem)

/-- The socket at a position is closed. -/
theorem Holds.close (h : Holds strict w held) {k : Nat} {x : Nat × Nat} (hk : held[k]? = some x)
    {shutdown : Bool} (hshutdown : strict = true → shutdown = true) :
    ∃ v, tcpClose (some x.1) shutdown w = .ok (.noError, none, v) ∧
      Holds strict v (held.eraseIdx k) := by
  obtain ⟨t, hcell, hsd⟩ := h.cells x (List.mem_of_getElem? hk)
  obtain ⟨v, hclose, hs, ht, hd⟩ := exists_close h.inv hcell shutdown
  have hklt := (List.getElem?_eq_some_iff.mp hk).1
  -- the other positions hold other addresses
  have hmem : ∀ y, y ∈ held.eraseIdx k ↔ y ∈ held ∧ y.1 ≠ x.1 := by
    intro y
    have hinj : ∀ i, held[i]? = some y → y.1 = x.1 → i = k := by
      intro i hi heq
      have hilt := (List.getElem?_eq_some_iff.mp hi).1
      exact (List.getElem?_inj (by simpa using hilt) h.nodup).mp (by simp [hi, hk, heq])
    rw [List.mem_eraseIdx_iff_getElem?]
    constructor
    · rintro ⟨i, hik, hi⟩
      exact ⟨List.mem_of_getElem? hi, fun heq => hik (hinj i hi heq)⟩
    · rintro ⟨hy, hne⟩
      obtain ⟨i, hi⟩ := List.mem_iff_getElem?.mp hy
      refine ⟨i, ?_, hi⟩
      rintro rfl
      rw [hk] at hi
      exact hne (by rw [Option.some.inj hi])
  refine ⟨v, hclose, tcpInv_closed h.inv hcell hs ht hd, ?_, ?_, ?_, ?_⟩
  · rw [← List.eraseIdx_map]
    exact h.nodup.sublist (List.eraseIdx_sublist _ _)
  · intro y hy
    obtain ⟨hy, hne⟩ := (hmem y).mp hy
    obtain ⟨u, hu, hud⟩ := h.cells y hy
    exact ⟨u, by rw [hs, Function.update_of_ne hne, hu], hud⟩
  · intro q hq
    obtain ⟨u, hu⟩ := Option.ne_none_iff_exists'.mp hq
    rw [hs] at hu
    obtain ⟨hne, hu⟩ := update_none_eq_some_iff.mp hu
    obtain ⟨y, hy, rfl⟩ := List.mem_map.mp (h.only q (by simp [hu]))
    exact List.mem_map_of_mem ((hmem y).mpr ⟨hy, hne⟩)
  · intro hstrict d hmemd
    rw [hd, if_pos (hshutdown hstrict), Finset.mem_erase] at hmemd
    obtain ⟨y, hy, rfl⟩ := List.mem_map.mp (h.descriptors hstrict d hmemd.2)
    refine List.mem_map_of_mem ((hmem y).mpr ⟨hy, ?_⟩)
    intro heq
    obtain ⟨u, hu, hud⟩ := h.cells y hy
    rw [heq, hcell] at hu
    obtain rfl := Option.some.inj hu
    apply hmemd.1
    rw [hud]
    rfl

/-- What `tcp_get_sd` reads is the descriptor of the account. -/
theorem Holds.tcpGetSd (h : Holds strict w held) {p d : Nat} (hmem : (p, d) ∈ held) (fd : Int) :
    w.tcpGetSd (some p) fd = .ok (.noError, (d : Int)) := by
  obtain ⟨t, hcell, hsd⟩ := h.cells (p, d) hmem
  rw [TcpState.tcpGetSd, tcpGet, tcpBound_of_socket h.inv hcell, ok_bind]
  dsimp only
  rw [hsd]

theorem Holds.getSd (h : Holds strict w held) {p d sd : Nat} {fd : Int} (hmem : (p, d) ∈ held)
    (hget : w.tcpGetSd (some p) fd = .ok (.noError, (sd : Int))) : d = sd := by
  rw [h.tcpGetSd hmem fd] at hget
  exact Int.ofNat_inj.mp (congrArg Prod.snd (Except.ok.inj hget))

/-- `tcp_receive` on a socket of the account reads from its descriptor. -/
theorem Holds.receiveRecord (h : Holds strict w held) {x : Nat × Nat} (hx : x ∈ held)
    (input : RecordInput) :
    receiveRecord w (some x.1) input = .ok [tcpReceive (some x.2) input.id 2,
      tcpReceive (some x.2) input.value 8, tcpReceive (some x.2) input.ts 8] := by
  obtain ⟨t, hcell, hsd⟩ := h.cells x hx
  have hreceive : ∀ recv size,
      tcpReceiveFrom w (some x.1) recv size = .ok (tcpReceive (some x.2) recv size) := by
    intro recv size
    rw [tcpReceiveFrom, tcpBound_of_socket h.inv hcell, ok_bind]
    dsimp only
    rw [hsd, Int.toNat_natCast]
  rw [SensorGateway.receiveRecord, hreceive, ok_bind, hreceive, ok_bind, hreceive, ok_bind]

/-! ## The calls in a pass of the loop -/

/-- The events of a pass: none before the last closes, and the last does so exactly when the pass
    removes the connection. -/
theorem serveSensor_closings (timeout : Int) (input : SensorInput) (revents : PollEvents)
    (sensor : SensorSocket) :
    let pass := serveSensor timeout input revents sensor
    (pass.removed = false → ∀ e ∈ pass.events, e.closes = false) ∧
      (pass.removed = true → ∃ heard e, pass.events = heard ++ [e] ∧ e.serial = sensor.serial ∧
        e.closes = true ∧ ∀ e' ∈ heard, e'.closes = false) := by
  intro pass
  have hremoved := serveSensor_removed_iff timeout input revents sensor
  have hhead : ∀ e ∈ ConnmgrEvent.tested sensor.serial revents ::
      (hearSensor input.record revents sensor).events, e.closes = false := by
    intro e he
    rcases List.mem_cons.mp he with rfl | he
    · rfl
    · exact (hearSensor_events he).2.1
  obtain ⟨-, ⟨hstays, hevents⟩ | ⟨e, he, hleaves, hevents⟩⟩ :=
    serveSensor_closing timeout input revents sensor
  · refine ⟨fun _ => ?_, fun h => absurd (hremoved.mp h) hstays⟩
    rw [hevents]
    exact hhead
  · refine ⟨fun h => absurd (hremoved.mpr hleaves) (by simp [pass] at h; simp [h]), fun _ => ?_⟩
    refine ⟨_, e, hevents, ?_, ?_, hhead⟩
    · rcases he with rfl | rfl <;> rfl
    · rcases he with rfl | rfl <;> rfl

/-- The events of the loop: none before the last closes, and the last does so exactly when the loop
    removes a connection. -/
theorem serveAll_closings (timeout : Int) (input : IterationInput) (revents : Nat → PollEvents)
    (i : Nat) (cs : List SensorSocket) :
    let r := serveAll timeout input revents i cs
    (r.removed = none → ∀ e ∈ r.events, e.closes = false) ∧
      ∀ k sensor, r.removed = some (i + k) → cs[k]? = some sensor → ∃ heard e,
        r.events = heard ++ [e] ∧ e.serial = sensor.serial ∧ e.closes = true ∧
          ∀ e' ∈ heard, e'.closes = false := by
  induction cs generalizing i with
  | nil => exact ⟨fun _ e he => (nomatch he), fun k sensor _ hk => by simp at hk⟩
  | cons head rest ih =>
    obtain ⟨hstays, hleaves⟩ := serveSensor_closings timeout (input.sensor i) (revents i) head
    simp only [serveAll]
    split_ifs with hremoved
    · refine ⟨fun h => (by cases h), ?_⟩
      intro k sensor hk hsensor
      obtain rfl : k = 0 := by
        have := Option.some.inj hk
        omega
      obtain rfl : head = sensor := by simpa using hsensor
      exact hleaves hremoved
    · have hnone := hstays (by simpa using hremoved)
      obtain ⟨hrest, hclosed⟩ := ih (i + 1)
      refine ⟨?_, ?_⟩
      · intro h e he
        rcases List.mem_append.mp he with he | he
        · exact hnone e he
        · exact hrest h e he
      · intro k sensor hk hsensor
        cases k with
        | zero =>
          -- what is removed later has a larger index
          rcases serveAll_spec timeout input revents (i + 1) rest with ⟨hn, -⟩ | ⟨j, c, hsome, -⟩
          · rw [hn] at hk
            cases hk
          · rw [hsome] at hk
            have := Option.some.inj hk
            omega
        | succ k =>
          obtain ⟨heard, e, hevents, hserial, hcloses, hheard⟩ := hclosed k sensor
            (by rw [hk, Nat.add_right_comm, Nat.add_assoc]) (by simpa using hsensor)
          refine ⟨_ ++ heard, e, by rw [hevents, List.append_assoc], hserial, hcloses, ?_⟩
          intro e' he'
          rcases List.mem_append.mp he' with he' | he'
          · exact hnone e' he'
          · exact hheard e' he'

variable {shutdown : Bool} {record : Nat → RecordInput} {socketOf : Nat → Ptr}

/-- Before the closing every call is a read from a socket of the account, which leaves the heap as
    it is. -/
theorem socketCalls_append (h : Holds strict w held) {heard : List ConnmgrEvent}
    (hheard : ∀ e ∈ heard, e.closes = false)
    (hheld : ∀ e ∈ heard, ∃ x ∈ held, socketOf e.serial = some x.1) (events : List ConnmgrEvent) :
    socketCalls shutdown record socketOf (heard ++ events) w =
      socketCalls shutdown record socketOf events w := by
  induction heard with
  | nil => rfl
  | cons e heard ih =>
    have hrest := ih (fun e' he' => hheard e' (List.mem_cons_of_mem _ he'))
      fun e' he' => hheld e' (List.mem_cons_of_mem _ he')
    have hcloses := hheard e List.mem_cons_self
    cases e with
    | received serial bytes =>
      obtain ⟨x, hx, hsocket⟩ := hheld _ List.mem_cons_self
      change socketOf serial = some x.1 at hsocket
      show (SensorGateway.receiveRecord w (socketOf serial) (record serial) >>= _) = _
      rw [hsocket, h.receiveRecord hx, ok_bind]
      exact hrest
    | closed serial id | timedOut serial id => cases hcloses
    | _ => exact hrest

theorem socketCalls_singleton {e : ConnmgrEvent} (he : e.closes = true) {code : TcpCode}
    {sock : Ptr} (hclose : tcpClose (socketOf e.serial) shutdown w = .ok (code, sock, v)) :
    socketCalls shutdown record socketOf [e] w = .ok v := by
  cases e with
  | closed serial id | timedOut serial id =>
    have hserial : tcpClose (socketOf serial) shutdown w = .ok (code, sock, v) := hclose
    rw [socketCalls, hserial, ok_bind]
    rfl
  | _ => cases he

/-! ## One iteration -/

namespace ServerState

variable {timeout : Int} {s s' : ServerState} {x : ServerInput}

/-- The connection that the iteration accepts is the socket that `tcp_wait_for_connection` opens. -/
def AcceptedAs (sys : TcpSystem) (s : ServerState) (x : ServerInput) : Prop :=
  s.connmgr.accepts x.iteration = true → ∃ (sd : Nat) (socket : Ptr) (tcp : TcpState),
    tcpWaitForConnection sys s.listener none x.accept s.tcp = .ok (.noError, socket, tcp) ∧
      tcp.tcpGetSd socket 0 = .ok (.noError, (sd : Int)) ∧ x.iteration.accept = .ok sd

/-- The sockets of these connections, by address and descriptor. -/
def SocketsOf (socketOf : Nat → Ptr) (links : List (Nat × Option Nat)) (conns : List (Nat × Nat)) :
    Prop :=
  (links.map fun link => (socketOf link.1, link.2)) = conns.map fun c => (some c.1, some c.2)

/-- What holds between two iterations. -/
structure Accounts (strict : Bool) (s : ServerState) : Prop where
  numbered : Numbered s.connmgr
  sockets : ∃ listening conns : List (Nat × Nat), Holds strict s.tcp (listening ++ conns) ∧
    (s.connmgr.exited = false → ∃ p, s.listener = some p ∧ listening = [(p, s.connmgr.socket)]) ∧
    (s.connmgr.exited = true → listening = []) ∧ SocketsOf s.socketOf s.connmgr.links conns

theorem SocketsOf.getElem? {socketOf : Nat → Ptr} {links : List (Nat × Option Nat)}
    {conns : List (Nat × Nat)} (h : SocketsOf socketOf links conns) {k : Nat}
    {link : Nat × Option Nat} (hk : links[k]? = some link) :
    ∃ c, conns[k]? = some c ∧ socketOf link.1 = some c.1 ∧ link.2 = some c.2 := by
  have hget := congrArg (fun l => l[k]?) h
  rw [List.getElem?_map, List.getElem?_map, hk, Option.map_some] at hget
  obtain ⟨c, hc, heq⟩ := Option.map_eq_some_iff.mp hget.symm
  exact ⟨c, hc, (congrArg Prod.fst heq).symm, (congrArg Prod.snd heq).symm⟩

theorem SocketsOf.exists_conn {socketOf : Nat → Ptr} {links : List (Nat × Option Nat)}
    {conns : List (Nat × Nat)} (h : SocketsOf socketOf links conns) {link : Nat × Option Nat}
    (hlink : link ∈ links) : ∃ c ∈ conns, socketOf link.1 = some c.1 ∧ link.2 = some c.2 := by
  have hmem := List.mem_map_of_mem (f := fun link => (socketOf link.1, link.2)) hlink
  rw [h] at hmem
  obtain ⟨c, hc, heq⟩ := List.mem_map.mp hmem
  exact ⟨c, hc, (congrArg Prod.fst heq).symm, (congrArg Prod.snd heq).symm⟩

theorem SocketsOf.exists_link {socketOf : Nat → Ptr} {links : List (Nat × Option Nat)}
    {conns : List (Nat × Nat)} (h : SocketsOf socketOf links conns) {c : Nat × Nat}
    (hc : c ∈ conns) : ∃ link ∈ links, socketOf link.1 = some c.1 ∧ link.2 = some c.2 := by
  have hmem := List.mem_map_of_mem (f := fun c : Nat × Nat => (some c.1, some c.2)) hc
  rw [← h] at hmem
  obtain ⟨link, hlink, heq⟩ := List.mem_map.mp hmem
  exact ⟨link, hlink, congrArg Prod.fst heq, congrArg Prod.snd heq⟩

theorem SocketsOf.eraseIdx {socketOf : Nat → Ptr} {links : List (Nat × Option Nat)}
    {conns : List (Nat × Nat)} (h : SocketsOf socketOf links conns) (k : Nat) :
    SocketsOf socketOf (links.eraseIdx k) (conns.eraseIdx k) := by
  unfold SocketsOf at h ⊢
  rw [← List.eraseIdx_map, ← List.eraseIdx_map, h]

/-- Sockets at different addresses belong to different connections. -/
theorem SocketsOf.nodup {socketOf : Nat → Ptr} {connections : List SensorSocket}
    {conns : List (Nat × Nat)} (h : SocketsOf socketOf (connections.map SensorSocket.link) conns)
    (hnodup : (conns.map Prod.fst).Nodup) : (connections.map fun c => socketOf c.serial).Nodup := by
  have hfst := congrArg (List.map Prod.fst) h
  simp only [List.map_map] at hfst
  have haddresses : (connections.map fun c => socketOf c.serial) =
      (conns.map Prod.fst).map some := by
    rw [List.map_map]
    exact hfst
  rw [haddresses]
  exact hnodup.map (Option.some_injective Nat)

/-- The new connection comes in, with a number that no other one has. -/
theorem SocketsOf.append {socketOf : Nat → Ptr} {links : List (Nat × Option Nat)}
    {conns : List (Nat × Nat)} (h : SocketsOf socketOf links conns) {n : Nat}
    (hn : ∀ link ∈ links, link.1 < n) (p d : Nat) :
    SocketsOf (Function.update socketOf n (some p)) (links ++ [(n, some d)])
      (conns ++ [(p, d)]) := by
  unfold SocketsOf at h ⊢
  rw [List.map_append, List.map_append, ← h]
  congr 1
  · apply List.map_congr_left
    intro link hlink
    rw [Function.update_of_ne (Nat.ne_of_lt (hn link hlink))]
  · simp

/-- The acceptance in an iteration. -/
theorem exists_accept (hx : AcceptedAs sys s x) (hrequest : s.connmgr.accepts x.iteration = true)
    {listening conns : List (Nat × Nat)} (hnumbered : Numbered s.connmgr)
    (hholds : Holds strict s.tcp (listening ++ conns))
    (hlistener : ∃ p, s.listener = some p ∧ listening = [(p, s.connmgr.socket)])
    (hconns : SocketsOf s.socketOf s.connmgr.links conns) :
    ∃ s₁ conns₁, s.accept sys x.accept = .ok s₁ ∧ s₁.connmgr = s.connmgr ∧
      s₁.listener = s.listener ∧
      Holds strict s₁.tcp (listening ++ conns₁) ∧
      SocketsOf s₁.socketOf
        (s.connmgr.links ++ (s.connmgr.newSensors x.iteration).map SensorSocket.link) conns₁ := by
  obtain ⟨sd, socket, tcp, hwait, hget, haccept⟩ := hx hrequest
  obtain ⟨p, hp, hlistening⟩ := hlistener
  have hvalid : Valid s.tcp s.listener := by
    intro q hq
    obtain ⟨t, hcell, -⟩ := hholds.cells (p, s.connmgr.socket) (by simp [hlistening])
    rw [hp] at hq
    obtain rfl := Option.some.inj hq
    simp [hcell]
  obtain ⟨b, out, hrun, -, heffect⟩ := returns_waitForConnection hholds.inv sys none x.accept hvalid
  rw [hwait] at hrun
  obtain rfl := Except.ok.inj hrun
  obtain ⟨q, d, rfl, hholds'⟩ := hholds.opened heffect (by simp)
  -- the descriptor is the one that the poll table gets
  obtain rfl : d = sd := hholds'.getSd (by simp) hget
  refine ⟨{ s with tcp := tcp, socketOf := Function.update s.socketOf s.connmgr.accepted (some q) },
    conns ++ [(q, d)], ?_, rfl, rfl, ?_, ?_⟩
  · rw [accept, hwait, ok_bind]
    dsimp only
    rw [hholds'.tcpGetSd (d := d) (by simp), ok_bind]
  · rwa [← List.append_assoc]
  · have hnew : (s.connmgr.newSensors x.iteration).map SensorSocket.link =
        [(s.connmgr.accepted, some d)] := by
      simp [newSensors, hrequest, haccept, newSocket, SensorSocket.link]
    rw [hnew]
    exact hconns.append hnumbered.serial_lt q d

/-- The rest of an iteration, when nothing but the sockets of these connections and the listening
    one is held. -/
theorem exists_finish (hshutdown : strict = true → x.shutdown = true) {connmgr : Connmgr}
    (hit : Iterated timeout s.connmgr x.iteration connmgr) (hnumbered : Numbered connmgr)
    {s₁ : ServerState} {listening conns : List (Nat × Nat)} (hconnmgr : s₁.connmgr = s.connmgr)
    (hholds : Holds strict s₁.tcp (listening ++ conns))
    (hlistener : ∃ p, s₁.listener = some p ∧ listening = [(p, s.connmgr.socket)])
    (hconns : SocketsOf s₁.socketOf
      (s.connmgr.links ++ (s.connmgr.newSensors x.iteration).map SensorSocket.link) conns) :
    ∃ s', s₁.finish x connmgr = .ok s' ∧ Accounts strict s' ∧ s'.connmgr = connmgr := by
  obtain ⟨p, hp, rfl⟩ := hlistener
  by_cases hexit : connmgr.exited = true
  · -- the list was empty, so the listening socket is the only one that is closed
    have hidle := hit.exited.mp hexit
    obtain ⟨v, hclose, hholds'⟩ := hholds.close (k := 0) rfl hshutdown
    refine ⟨{ s₁ with connmgr := connmgr, tcp := v, listener := none }, ?_, ?_, rfl⟩
    · rw [finish, if_pos hexit, hp, hclose, ok_bind]
    · have hlinks : connmgr.links =
          s.connmgr.links ++ (s.connmgr.newSensors x.iteration).map SensorSocket.link := by
        have hempty := List.length_eq_zero_iff.mp hidle.1
        rw [Connmgr.links, Connmgr.links, connections_of_idles hit hidle, hempty]
        rfl
      refine ⟨hnumbered, [], conns, hholds', ?_, fun _ => rfl, ?_⟩
      · intro hrunning
        rw [hexit] at hrunning
        cases hrunning
      · rw [hlinks]
        exact hconns
  · have hevents : connmgr.log.drop s₁.connmgr.log.length =
        (s.connmgr.served timeout x.iteration).events := by
      rw [hconnmgr, hit.log, List.drop_left]
    have hclosings := serveAll_closings timeout x.iteration (s.connmgr.polled x.iteration) 0
      s.connmgr.connections
    -- the loop is about connections of the list, and these have their sockets
    have hheld : ∀ e ∈ (s.connmgr.served timeout x.iteration).events,
        ∃ c ∈ [(p, s.connmgr.socket)] ++ conns, s₁.socketOf e.serial = some c.1 := by
      intro e he
      obtain ⟨k, sensor, hk, hserial, -⟩ := serveAll_events he
      have hlink : sensor.link ∈ s.connmgr.links := List.mem_map_of_mem (List.mem_of_getElem? hk)
      obtain ⟨c, hc, hsocket, -⟩ := hconns.exists_conn (List.mem_append_left _ hlink)
      exact ⟨c, List.mem_append_right _ hc, hserial ▸ hsocket⟩
    have hkeep : ∀ {v : TcpState} {conns' : List (Nat × Nat)},
        socketCalls x.shutdown (s₁.connmgr.recordOf x.iteration) s₁.socketOf
          (s.connmgr.served timeout x.iteration).events s₁.tcp = .ok v →
        Holds strict v ((p, s.connmgr.socket) :: conns') →
        SocketsOf s₁.socketOf connmgr.links conns' →
        ∃ s', s₁.finish x connmgr = .ok s' ∧ Accounts strict s' ∧ s'.connmgr = connmgr := by
      intro v conns' hclose hholds' hconns'
      refine ⟨{ s₁ with connmgr := connmgr, tcp := v }, ?_, ?_, rfl⟩
      · rw [finish, if_neg hexit, hevents, hclose, ok_bind]
      · refine ⟨hnumbered, [(p, s.connmgr.socket)], conns', hholds', ?_, ?_, hconns'⟩
        · intro _
          exact ⟨p, hp, by rw [hit.socket]⟩
        · intro h
          exact absurd h hexit
    rcases hit.links with ⟨hnone, hlinks, -⟩ | ⟨k, sensor, hsome, hk, -, hlinks, -⟩
    · refine hkeep ?_ hholds (by rw [hlinks]; exact hconns)
      rw [← List.append_nil (s.connmgr.served timeout x.iteration).events]
      exact socketCalls_append hholds (hclosings.1 hnone) hheld []
    · obtain ⟨heard, e, hloop, hserial, hcloses, hheard⟩ :=
        hclosings.2 k sensor (by rw [Nat.zero_add]; exact hsome) hk
      change (s.connmgr.served timeout x.iteration).events = heard ++ [e] at hloop
      have hlink : s.connmgr.links[k]? = some sensor.link := by simp [Connmgr.links, hk]
      have hklt := (List.getElem?_eq_some_iff.mp hlink).1
      obtain ⟨c, hc, hsocket, -⟩ := hconns.getElem? (k := k)
        (by rw [List.getElem?_append_left hklt, hlink])
      obtain ⟨v, hclose, hholds'⟩ := hholds.close (k := k + 1) (by simpa using hc) hshutdown
      refine hkeep ?_ (by simpa using hholds') ?_
      · have hclosing : tcpClose (s₁.socketOf e.serial) x.shutdown s₁.tcp =
            .ok (.noError, none, v) := by
          rw [hserial, ← hclose, ← hsocket]
          rfl
        rw [hloop] at hheld ⊢
        rw [socketCalls_append hholds hheard fun e' he' => hheld e' (List.mem_append_left _ he')]
        exact socketCalls_singleton hcloses hclosing
      · rw [hlinks, ← List.eraseIdx_append_of_lt_length hklt]
        exact hconns.eraseIdx k

/-- The iterations that keep the account. -/
def Accountable (strict : Bool) (sys : TcpSystem) (s : ServerState) (x : ServerInput) : Prop :=
  AcceptedAs sys s x ∧ (strict = true → x.shutdown = true)

/-- An iteration does not fault, and it keeps the account. -/
theorem exists_step (h : Accounts strict s) (hx : Accountable strict sys s x)
    (hrunning : s.connmgr.exited = false) (timeout : Int) :
    ∃ s', s.step timeout sys x = some (.ok s') ∧ Accounts strict s' ∧
      iterate timeout s.connmgr x.iteration = some s'.connmgr := by
  obtain ⟨connmgr, hiterate⟩ := exists_iterate hrunning timeout x.iteration
  have hit := iterated_of_iterate hiterate
  have hnumbered := numbered_of_iterated h.numbered hit
  obtain ⟨listening, conns, hholds, hlistener, -, hconns⟩ := h.sockets
  unfold step
  rw [hiterate, Option.bind_eq_bind, Option.bind_some]
  by_cases hrequest : s.connmgr.accepts x.iteration = true
  · obtain ⟨s₁, conns₁, haccept, hconnmgr, hlistener₁, hholds₁, hconns₁⟩ :=
      exists_accept hx.1 hrequest h.numbered hholds (hlistener hrunning) hconns
    obtain ⟨s', hfinish, haccounts, hconnmgr'⟩ := exists_finish hx.2 hit hnumbered hconnmgr hholds₁
      (by rw [hlistener₁]; exact hlistener hrunning) hconns₁
    refine ⟨s', ?_, haccounts, by rw [hconnmgr']⟩
    rw [accepts] at hrequest
    dsimp only
    rw [if_pos hrequest, haccept, ok_bind, hfinish]
  · have hnew : s.connmgr.newSensors x.iteration = [] := by simp [newSensors, hrequest]
    obtain ⟨s', hfinish, haccounts, hconnmgr'⟩ := exists_finish hx.2 hit hnumbered rfl hholds
      (hlistener hrunning) (by rw [hnew, List.map_nil, List.append_nil]; exact hconns)
    refine ⟨s', ?_, haccounts, by rw [hconnmgr']⟩
    rw [accepts] at hrequest
    dsimp only
    rw [if_neg hrequest, ok_bind, hfinish]

theorem accounts_start (strict : Bool) {port : Int} {os : PassiveAnswers} {tcp : TcpState}
    {listener : Ptr} {sd : Nat} (hopen : tcpPassiveOpen sys none port os .empty =
      .ok (.noError, listener, tcp)) (hget : tcp.tcpGetSd listener 0 = .ok (.noError, (sd : Int)))
    (fd : Nat → PollFd) (time : Int) : Accounts strict (start sd fd time tcp listener) := by
  obtain ⟨b, out, hrun, -, heffect⟩ := returns_passiveOpen (w := .empty) sys none port os
  rw [hopen] at hrun
  obtain rfl := Except.ok.inj hrun
  obtain ⟨p, d, rfl, hholds⟩ := (holds_empty strict).opened heffect (by simp)
  obtain rfl : d = sd := hholds.getSd (by simp) hget
  refine ⟨numbered_serverCreate d fd time, [(p, d)], [], hholds, fun _ => ⟨p, rfl, rfl⟩, ?_, rfl⟩
  intro h
  cases h

theorem accounts_of_reach {port : Int} {os : PassiveAnswers} {tcp : TcpState}
    {listener : Ptr} {sd : Nat} (hopen : tcpPassiveOpen sys none port os .empty =
      .ok (.noError, listener, tcp)) (hget : tcp.tcpGetSd listener 0 = .ok (.noError, (sd : Int)))
    {fd : Nat → PollFd} {time : Int} (h : ReachVia (next timeout sys) (Accountable strict sys)
      (start sd fd time tcp listener) s) : Accounts strict s := by
  refine h.invariant (P := Accounts strict) (accounts_start strict hopen hget fd time) ?_
  intro s x s' hs hx hnext
  have hrunning : s.connmgr.exited = false := by
    by_contra hexit
    have hnone : iterate timeout s.connmgr x.iteration = none := if_pos (by simpa using hexit)
    simp [next, step, hnone] at hnext
  obtain ⟨s'', hstep, haccounts, -⟩ := exists_step hs hx hrunning timeout
  rw [next, hstep] at hnext
  obtain rfl := Option.some.inj hnext
  exact haccounts

/-- From `server_create` on, whatever the network does as long as the connections that are requested
    can be accepted: no iteration uses a socket that is gone; every connection of the list has its
    socket on the heap, bound, with the descriptor that the list knows; besides these there is the
    listening socket until the exit, and no other one. When every `shutdown` succeeds no other
    descriptor is open. The calls on the socket of a connection do what the list says of its
    descriptor, and no two connections have one socket, nor does one have the listening socket. -/
theorem server_sockets (timeout : Int) (sys : TcpSystem) (strict : Bool) (port : Int)
    (os : PassiveAnswers) (tcp : TcpState) (listener : Ptr) (sd : Nat)
    (hopen : tcpPassiveOpen sys none port os .empty = .ok (.noError, listener, tcp))
    (hget : tcp.tcpGetSd listener 0 = .ok (.noError, (sd : Int))) (fd : Nat → PollFd) (time : Int)
    (s : ServerState) (h : ReachVia (next timeout sys) (Accountable strict sys)
      (start sd fd time tcp listener) s) :
    (∀ x fault, Accountable strict sys s x → s.step timeout sys x ≠ some (.error fault)) ∧
      (∀ c ∈ s.connmgr.connections, ∃ p t, s.socketOf c.serial = some p ∧
        s.tcp.sockets.cells p = some t ∧ t.cookie = magicCookie ∧ c.socket = some t.sd.toNat) ∧
      (∀ p, s.tcp.sockets.cells p ≠ none ↔ (s.connmgr.exited = false ∧ s.listener = some p) ∨
        ∃ c ∈ s.connmgr.connections, s.socketOf c.serial = some p) ∧
      (strict = true → ∀ d ∈ s.tcp.descriptors,
        (s.connmgr.exited = false ∧ d = s.connmgr.socket) ∨
          ∃ c ∈ s.connmgr.connections, c.socket = some d) ∧
      (∀ c ∈ s.connmgr.connections,
        (∀ input, receiveRecord s.tcp (s.socketOf c.serial) input =
          .ok [tcpReceive c.socket input.id 2, tcpReceive c.socket input.value 8,
            tcpReceive c.socket input.ts 8]) ∧
        ∀ fd, s.tcp.tcpGetSd (s.socketOf c.serial) fd =
          .ok (.noError, SensorGateway.tcpGetSd c.socket fd)) ∧
      (s.connmgr.connections.map fun c => s.socketOf c.serial).Nodup ∧
      (s.connmgr.exited = false →
        ∀ c ∈ s.connmgr.connections, s.socketOf c.serial ≠ s.listener) := by
  have haccounts := accounts_of_reach hopen hget h
  obtain ⟨listening, conns, hholds, hlistener, hexited, hconns⟩ := haccounts.sockets
  have hnodup := hholds.nodup
  rw [List.map_append] at hnodup
  -- a socket of the account is the listening one or that of a connection
  have hwhose : ∀ y ∈ listening ++ conns,
      (s.connmgr.exited = false ∧ s.listener = some y.1 ∧ y.2 = s.connmgr.socket) ∨
        ∃ c ∈ s.connmgr.connections, s.socketOf c.serial = some y.1 ∧ c.socket = some y.2 := by
    intro y hy
    rcases List.mem_append.mp hy with hy | hy
    · left
      cases hexit : s.connmgr.exited with
      | true =>
        rw [hexited hexit] at hy
        cases hy
      | false =>
        obtain ⟨p, hp, hlist⟩ := hlistener hexit
        rw [hlist] at hy
        obtain rfl := List.mem_singleton.mp hy
        exact ⟨rfl, hp, rfl⟩
    · right
      obtain ⟨link, hlink, hsocket, hsd⟩ := hconns.exists_link hy
      obtain ⟨c, hc, rfl⟩ := List.mem_map.mp hlink
      exact ⟨c, hc, hsocket, hsd⟩
  have hconn : ∀ c ∈ s.connmgr.connections, ∃ y ∈ conns,
      s.socketOf c.serial = some y.1 ∧ c.socket = some y.2 := fun c hc =>
    hconns.exists_conn (List.mem_map_of_mem hc)
  refine ⟨?_, ?_, ?_, ?_, ?_, ?_, ?_⟩
  · intro x fault hx hfault
    cases hexit : s.connmgr.exited with
    | true =>
      have hnone : iterate timeout s.connmgr x.iteration = none := if_pos hexit
      simp [step, hnone] at hfault
    | false =>
      obtain ⟨s', hstep, -⟩ := exists_step haccounts hx hexit timeout
      rw [hstep] at hfault
      cases hfault
  · intro c hc
    obtain ⟨y, hy, hsocket, hsd⟩ := hconn c hc
    obtain ⟨t, hcell, htsd⟩ := hholds.cells y (List.mem_append_right _ hy)
    exact ⟨y.1, t, hsocket, hcell, hholds.inv.bound _ _ hcell, by rw [hsd, htsd, Int.toNat_natCast]⟩
  · intro p
    constructor
    · intro hp
      obtain ⟨y, hy, rfl⟩ := List.mem_map.mp (hholds.only p hp)
      rcases hwhose y hy with ⟨hexit, hlist, -⟩ | ⟨c, hc, hsocket, -⟩
      · exact .inl ⟨hexit, hlist⟩
      · exact .inr ⟨c, hc, hsocket⟩
    · rintro (⟨hexit, hlist⟩ | ⟨c, hc, hsocket⟩)
      · obtain ⟨q, hq, rfl⟩ := hlistener hexit
        rw [hlist] at hq
        obtain rfl := Option.some.inj hq
        obtain ⟨t, hcell, -⟩ := hholds.cells (p, s.connmgr.socket) (by simp)
        simp [hcell]
      · obtain ⟨y, hy, hsocket', -⟩ := hconn c hc
        rw [hsocket] at hsocket'
        obtain rfl := Option.some.inj hsocket'
        obtain ⟨t, hcell, -⟩ := hholds.cells y (List.mem_append_right _ hy)
        simp [hcell]
  · intro hstrict d hd
    obtain ⟨y, hy, rfl⟩ := List.mem_map.mp (hholds.descriptors hstrict d hd)
    rcases hwhose y hy with ⟨hexit, -, hsd⟩ | ⟨c, hc, -, hsd⟩
    · exact .inl ⟨hexit, hsd⟩
    · exact .inr ⟨c, hc, hsd⟩
  · intro c hc
    obtain ⟨y, hy, hsocket, hsd⟩ := hconn c hc
    have hmem := List.mem_append_right listening hy
    rw [hsocket, hsd]
    exact ⟨hholds.receiveRecord hmem, hholds.tcpGetSd hmem⟩
  · exact hconns.nodup (hnodup.of_append_right)
  · intro hexit c hc heq
    obtain ⟨q, hq, rfl⟩ := hlistener hexit
    obtain ⟨y, hy, hsocket, -⟩ := hconn c hc
    rw [heq, hq] at hsocket
    have hy' := List.mem_map_of_mem (f := Prod.fst) hy
    rw [← Option.some.inj hsocket] at hy'
    exact (List.nodup_cons.mp hnodup).1 hy'

/-- The sockets after `tcp_passive_open` on port 1234. -/
def sampleListening : TcpState :=
  (run (tcpStep sampleTcpSystem) .empty [.passiveOpen 1234 ⟨true, true, true, true⟩]).get rfl

/-- A client connects. -/
def sampleConnect : ServerInput where
  iteration := sampleInput (some 6)
  accept := ⟨true, true, true, "127.0.0.1".toList, 40000⟩
  shutdown := true

theorem server_sockets_sample : ∃ s, next 5 sampleTcpSystem
    (start 3 (fun _ => ⟨0, ⟨false, false⟩, ⟨false, false⟩⟩) 0 sampleListening (some 0))
    sampleConnect =
      some s ∧ (s.connmgr.connections.map SensorSocket.socket) = [some 6] ∧
      ∀ c ∈ s.connmgr.connections, ∃ p t, s.socketOf c.serial = some p ∧
        s.tcp.sockets.cells p = some t ∧ t.cookie = magicCookie ∧ c.socket = some t.sd.toNat := by
  obtain ⟨s, hs, hsocket⟩ : ∃ s, next 5 sampleTcpSystem
      (start 3 (fun _ => ⟨0, ⟨false, false⟩, ⟨false, false⟩⟩) 0 sampleListening (some 0))
      sampleConnect = some s ∧ s.connmgr.connections.map SensorSocket.socket = [some 6] :=
    ⟨_, rfl, rfl⟩
  have haccepted : Accountable true sampleTcpSystem
      (start 3 (fun _ => ⟨0, ⟨false, false⟩, ⟨false, false⟩⟩) 0 sampleListening (some 0))
      sampleConnect := ⟨fun _ => ⟨6, _, _, rfl, rfl, rfl⟩, fun _ => rfl⟩
  have h := server_sockets 5 sampleTcpSystem true 1234 ⟨true, true, true, true⟩ sampleListening
    (some 0) 3 rfl rfl (fun _ => ⟨0, ⟨false, false⟩, ⟨false, false⟩⟩) 0 s
    (ReachVia.tail_step .refl haccepted hs)
  exact ⟨s, hs, hsocket, h.2.1⟩

end ServerState

end SensorGateway
