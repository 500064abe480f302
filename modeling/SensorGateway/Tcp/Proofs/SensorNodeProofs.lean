import SensorGateway.Connmgr.Proofs.WireProofs
import SensorGateway.Tcp.Proofs.TcpsockProofs
import SensorGateway.Tcp.SensorNode

/-!
# The stream of a sensor node

A sensor node never asks how many bytes a call of `tcp_send` has taken. Its stream is that of its
measurements as long as no call takes a part of its field, and never again afterwards.
-/

namespace SensorGateway

open PtrHeap Transition LittleEndian Scan

/-- The call takes some bytes of the field, but not all. -/
def Partial (n : Nat) (send : Send) : Prop := 0 < send.taken ∧ send.taken < n

/-- A call of the pass takes a part of its field. -/
def NodeInput.Partial (input : NodeInput) : Prop :=
  SensorGateway.Partial 2 input.sendId ∨ SensorGateway.Partial 8 input.sendValue ∨
    SensorGateway.Partial 8 input.sendTs

namespace SensorNode

variable {loops : Nat} {s s' : SensorNode} {input : NodeInput} {inputs : List NodeInput}

/-! ## One measurement -/

section Fields

variable {tcp : TcpState} {client : Ptr} {t : Tcpsock}

/-- On a bound socket `tcp_send` succeeds when a byte is taken. -/
theorem tcpSend_of_bound (hbound : tcpBound tcp client = .ok (some t)) (send : Send)
    (bufSize : Int) :
    ∃ code size, tcpSend tcp client send bufSize = .ok (code, size) ∧
      (code = .noError ↔ 0 < send.taken) := by
  unfold tcpSend
  rw [hbound, ok_bind]
  cases send with
  | sent n =>
    dsimp only
    split_ifs with hn
    · exact ⟨_, _, rfl, by simp [Send.taken, hn]⟩
    · exact ⟨_, _, rfl, by simp [Send.taken, Nat.pos_of_ne_zero hn]⟩
  | failed noPeer =>
    dsimp only
    split_ifs
    · exact ⟨_, _, rfl, by simp [Send.taken]⟩
    · exact ⟨_, _, rfl, by simp [Send.taken]⟩

/-- What is known of the bytes that were taken from a text, when the calls have succeeded or not. -/
structure Takes (ok : Bool) (partialCall : Prop) (bytes text : List UInt8) : Prop where
  length_le : bytes.length ≤ text.length
  isPrefix : ¬ partialCall → bytes <+: text
  whole_iff : ok = true → (bytes = text ↔ ¬ partialCall)

theorem takes_nil : Takes true False [] [] := ⟨le_rfl, fun _ => List.prefix_rfl, fun _ => by simp⟩

/-- Both parts are whole when all of it is. -/
theorem append_eq_append_iff_of_length_le {α : Type} {xs ys xs' ys' : List α}
    (hx : xs.length ≤ xs'.length) (hy : ys.length ≤ ys'.length) :
    xs ++ ys = xs' ++ ys' ↔ xs = xs' ∧ ys = ys' := by
  constructor
  · intro h
    have hlength := congrArg List.length h
    rw [List.length_append, List.length_append] at hlength
    exact List.append_inj h (by omega)
  · rintro ⟨rfl, rfl⟩
    rfl

/-- A part that was taken with success, and the rest. -/
theorem Takes.append {ok : Bool} {p q : Prop} {bytes bytes' text text' : List UInt8}
    (h : Takes true p bytes text) (h' : Takes ok q bytes' text') :
    Takes ok (p ∨ q) (bytes ++ bytes') (text ++ text') where
  length_le := by
    have hle := h.length_le
    have hle' := h'.length_le
    rw [List.length_append, List.length_append]
    omega
  isPrefix := by
    intro hnot
    rw [not_or] at hnot
    rw [(h.whole_iff rfl).mpr hnot.1]
    exact (List.prefix_append_right_inj text).mpr (h'.isPrefix hnot.2)
  whole_iff := by
    intro hok
    rw [append_eq_append_iff_of_length_le h.length_le h'.length_le, h.whole_iff rfl,
      h'.whole_iff hok, not_or]

theorem takes_field {field : List UInt8} {send : Send} (hpos : 0 < send.taken) :
    Takes true (SensorGateway.Partial field.length send) (field.take send.taken) field where
  length_le := List.length_take_le' _ _
  isPrefix := fun _ => List.take_prefix _ _
  whole_iff := by
    intro _
    rw [List.take_eq_self_iff, SensorGateway.Partial]
    omega

theorem sendFields_spec (hbound : tcpBound tcp client = .ok (some t))
    (fields : List (List UInt8 × Send)) :
    ∃ ok bytes, sendFields tcp client fields = .ok (ok, bytes) ∧
      Takes ok (∃ field ∈ fields, SensorGateway.Partial field.1.length field.2) bytes
        (fields.flatMap Prod.fst) := by
  induction fields with
  | nil => exact ⟨true, [], rfl, by simpa using takes_nil⟩
  | cons field fields ih =>
    obtain ⟨field, send⟩ := field
    obtain ⟨code, size, hsend, hcode⟩ := tcpSend_of_bound hbound send field.length
    rw [sendFields, hsend, ok_bind]
    dsimp only
    by_cases hok : code = .noError
    · obtain ⟨ok, bytes, hrest, htakes⟩ := ih
      rw [if_neg (not_not.mpr hok), hrest, ok_bind]
      refine ⟨ok, _, rfl, ?_⟩
      simpa [or_and_right, exists_or] using (takes_field (hcode.mp hok)).append htakes
    · rw [if_pos hok]
      exact ⟨false, [], rfl, Nat.zero_le _, fun _ => List.nil_prefix, fun h => nomatch h⟩

theorem flatMap_fields (m : Measurement) (input : NodeInput) :
    (fields m input).flatMap Prod.fst = m.bytes := by
  simp [fields, Measurement.bytes]

theorem exists_fields_partial (m : Measurement) (input : NodeInput) :
    (∃ field ∈ fields m input, SensorGateway.Partial field.1.length field.2) ↔ input.Partial := by
  simp [fields, NodeInput.Partial]

end Fields

/-! ## One pass -/

/-- The node has its connection, no other socket and no other descriptor. -/
structure Connected (s : SensorNode) : Prop where
  inv : TcpInv s.tcp
  client : ∃ p t, s.client = some p ∧ s.tcp.sockets.cells p = some t ∧
    (∀ q, s.tcp.sockets.cells q ≠ none → q = p) ∧ s.tcp.descriptors = {t.sd.toNat}

/-- Nothing is left of the connection but, when `shutdown` has failed, its descriptor. -/
structure Closed (s : SensorNode) : Prop where
  client : s.client = none
  sockets : ∀ p, s.tcp.sockets.cells p = none
  texts : ∀ a, s.tcp.texts.cells a = none

/-- What holds between two passes. -/
structure NodeInv (loops : Nat) (s : SensorNode) : Prop where
  running : s.exit = none → Connected s ∧ 0 < s.i ∧ (1 < loops → s.i + s.measured.length = loops)
  success : s.exit = some .success → Closed s ∧ 1 < loops ∧ s.measured.length = loops

theorem close_spec (h : Connected s) (shutdown : Bool) :
    ∃ client tcp, s.close shutdown =
      .ok { s with client := client, tcp := tcp, exit := some .success } ∧
      Closed { s with client := client, tcp := tcp, exit := some .success } ∧
      tcp.descriptors.card = if shutdown then 0 else 1 := by
  obtain ⟨p, t, hclient, ht, honly, hdescriptors⟩ := h.client
  obtain ⟨v, hclose, hsockets, htexts, hleft⟩ := exists_close h.inv ht shutdown
  rw [close, hclient, hclose, ok_bind]
  refine ⟨none, v, rfl, ⟨rfl, ?_, ?_⟩, ?_⟩
  · intro q
    show v.sockets.cells q = none
    rw [hsockets]
    by_cases hq : q = p
    · rw [hq, Function.update_self]
    · rw [Function.update_of_ne hq]
      exact not_not.mp fun hne => hq (honly q hne)
  · intro a
    show v.texts.cells a = none
    by_contra ha
    obtain ⟨hip, hold⟩ := (htexts a).mp ha
    obtain ⟨q, u, hu, huip⟩ := (h.inv.texts a).mp hold
    obtain rfl := honly q (by rw [hu]; simp)
    rw [hu] at ht
    obtain rfl := Option.some.inj ht
    exact hip huip
  · rw [hleft, hdescriptors]
    cases shutdown <;> simp

/-- What a pass does to the stream, and to the descriptor when it is the last one. -/
structure Sends (s : SensorNode) (input : NodeInput) (s' : SensorNode) : Prop where
  id : s'.id = s.id
  measured : s'.measured = s.measured ++ [input.measurement s.id]
  sent : ∃ bytes, s'.sent = s.sent ++ bytes ∧
    Takes (s'.exit ≠ some .failure) input.Partial bytes (input.measurement s.id).bytes
  descriptors : s'.exit = some .success →
    s'.tcp.descriptors.card = if input.shutdown then 0 else 1

theorem pass_spec (hI : NodeInv loops s) (hrunning : s.exit = none) (input : NodeInput) :
    ∃ s', s.pass loops input = .ok s' ∧ Sends s input s' ∧ NodeInv loops s' := by
  obtain ⟨hconnected, hi, hcount⟩ := hI.running hrunning
  obtain ⟨p, t, hclient, ht, -⟩ := hconnected.client
  have hbound : tcpBound s.tcp s.client = .ok (some t) := by
    rw [hclient]
    exact tcpBound_of_socket hconnected.inv ht
  obtain ⟨ok, bytes, hsend, htakes⟩ :=
    sendFields_spec hbound (fields (input.measurement s.id) input)
  rw [flatMap_fields, exists_fields_partial] at htakes
  rw [pass, hsend, ok_bind]
  dsimp only
  cases ok with
  | false =>
    refine ⟨_, rfl, ⟨rfl, rfl, ⟨bytes, rfl, ?_⟩, fun h => nomatch h⟩,
      ⟨(fun h => nomatch h), (fun h => nomatch h)⟩⟩
    simpa using htakes
  | true =>
    have hrest : ∀ (i : Nat) (client : Ptr) (tcp : TcpState) (exit : Option ExitCode),
        exit ≠ some .failure →
        (exit = some .success → tcp.descriptors.card = if input.shutdown then 0 else 1) →
        Sends s input { s with
          measured := s.measured ++ [input.measurement s.id], sent := s.sent ++ bytes,
          i := i, client := client, tcp := tcp, exit := exit } := by
      intro i client tcp exit hexit hdescriptors
      refine ⟨rfl, rfl, ⟨bytes, rfl, ?_⟩, hdescriptors⟩
      simpa [hexit] using htakes
    have hgoes : ∀ i, Sends s input { s with
        measured := s.measured ++ [input.measurement s.id], sent := s.sent ++ bytes, i := i } :=
      fun i => hrest i s.client s.tcp s.exit (by simp [hrunning]) (by simp [hrunning])
    have hconnected' : ∀ i, Connected { s with
        measured := s.measured ++ [input.measurement s.id], sent := s.sent ++ bytes, i := i } :=
      fun i => ⟨hconnected.inv, hconnected.client⟩
    rw [if_pos rfl]
    split_ifs with hloops hlast hlast
    · -- the last pass
      obtain ⟨client, tcp, hclose, hclosed, hleft⟩ := close_spec (hconnected' _) input.shutdown
      refine ⟨_, hclose, hrest _ _ _ _ (by simp) fun _ => hleft,
        ⟨(fun h => nomatch h), fun _ => ⟨hclosed, hloops, ?_⟩⟩⟩
      have hcount' := hcount hloops
      simp only [List.length_append, List.length_singleton]
      omega
    · refine ⟨_, rfl, hgoes _, ⟨fun _ => ⟨hconnected' _, ?_, ?_⟩, fun h => ?_⟩⟩
      · exact Nat.pos_of_ne_zero hlast
      · intro _
        have hcount' := hcount hloops
        simp only [List.length_append, List.length_singleton]
        omega
      · rw [hrunning] at h
        cases h
    · exact absurd hlast hi.ne'
    · refine ⟨_, rfl, hgoes _, ⟨fun _ => ⟨hconnected' _, hi, ?_⟩, fun h => ?_⟩⟩
      · intro h
        exact absurd h hloops
      · rw [hrunning] at h
        cases h

/-! ## Whole runs -/

/-- `main` up to its loop returns, whatever the arguments and the answers are. -/
theorem start_spec (sys : TcpSystem) (loops : Nat) (name id sleep ip port : List Char)
    (os : ActiveAnswers) :
    ∃ s, start sys loops [name, id, sleep, ip, port] os = .ok s ∧ NodeInv loops s ∧
      s.id = UInt16.ofInt (atoi id) ∧ s.measured = [] ∧ s.sent = [] := by
  obtain ⟨b, ⟨code, client, tcp⟩, hopen, -, heffect⟩ :=
    @returns_activeOpen .empty sys none (atoi port) (some (ip.take 15)) os
  rw [start, hopen, ok_bind]
  refine ⟨_, rfl, ?_, rfl, rfl, rfl⟩
  have hinv := tcpInv_effect tcpInv_empty heffect
  have hfailed : code ≠ .noError → NodeInv loops
      ⟨UInt16.ofInt (atoi id), tcp, client, if loops > 1 then loops else 1, [], [],
        if code ≠ .noError then some .failure else none⟩ := by
    intro hcode
    constructor
    · intro h
      simp [hcode] at h
    · intro h
      simp [hcode] at h
  cases heffect with
  | failed code sock v hcode => exact hfailed hcode
  | lost code sock v sd hcode => exact hfailed hcode
  | opened v p sd ipAddr port hcall hp hsd hip hs ht hd =>
    have hcell : tcp.sockets.cells p = some ⟨magicCookie, sd, ipAddr, port⟩ := by
      rw [hs, Function.update_self]
    constructor
    · intro _
      refine ⟨⟨hinv, p, _, rfl, hcell, ?_, hd⟩, ?_, ?_⟩
      · intro q hq
        by_contra hne
        change tcp.sockets.cells q ≠ none at hq
        rw [hs, Function.update_of_ne hne] at hq
        exact hq rfl
      · dsimp only
        split_ifs
        · omega
        · exact one_pos
      · intro hloops
        simp [hloops]
    · intro h
      simp at h
  | closed v p t shutdown hcall => cases hcall

/-- What a run has sent. -/
structure Streams (loops : Nat) (id : UInt16) (inputs : List NodeInput) (s : SensorNode) :
    Prop where
  inv : NodeInv loops s
  id_eq : s.id = id
  measured : s.measured = inputs.map fun input => input.measurement id
  sent : Takes (s.exit ≠ some .failure) (∃ input ∈ inputs, input.Partial) s.sent
    (wireBytes s.measured)
  descriptors : s.exit = some .success → ∀ input, inputs.getLast? = some input →
    s.tcp.descriptors.card = if input.shutdown then 0 else 1

theorem Streams.next {id : UInt16} (h : Streams loops id inputs s)
    (hs : next loops s input = some s') : Streams loops id (inputs ++ [input]) s' := by
  have hrunning : s.exit = none := by
    by_contra hexit
    simp [SensorNode.next, step, hexit] at hs
  obtain ⟨t, hpass, hsends, hinv⟩ := pass_spec h.inv hrunning input
  rw [SensorNode.next, step, if_pos hrunning, hpass] at hs
  obtain rfl : t = s' := Option.some.inj hs
  obtain ⟨bytes, hsent, htakes⟩ := hsends.sent
  refine ⟨hinv, hsends.id.trans h.id_eq, ?_, ?_, ?_⟩
  · rw [hsends.measured, h.measured, h.id_eq, List.map_append]
    rfl
  · have hall := h.sent
    rw [hrunning, decide_eq_true (by simp)] at hall
    have happend := hall.append htakes
    rw [hsent, hsends.measured, wireBytes_append]
    simpa [wireBytes, or_and_right, exists_or] using happend
  · intro hsuccess last hlast
    rw [List.getLast?_concat] at hlast
    obtain rfl := Option.some.inj hlast
    exact hsends.descriptors hsuccess

/-- With a wrong number of arguments `main` prints its help and exits. -/
theorem start_of_length_ne {argv : List (List Char)} (hlength : argv.length ≠ 5) (sys : TcpSystem)
    (loops : Nat) (os : ActiveAnswers) :
    start sys loops argv os =
      .ok ⟨0, .empty, none, if loops > 1 then loops else 1, [], [], some .success⟩ := by
  unfold start
  split
  · exact absurd rfl hlength
  · rfl

/-- Whatever the arguments, whatever the sensor node measures and whatever the operating system
    answers: with a wrong number of arguments the node exits with success before it has opened or
    sent anything. Else no pass dereferences a pointer that is NULL or was freed; until it exits the
    node has its connection, no other socket and no other descriptor; when it exits with success it
    has made all its `LOOPS` passes and nothing is left of the connection, but for its descriptor
    when the last `shutdown` has failed. While no call of `tcp_send` takes a part of its field, the
    stream is that of the measurements, whole but for what a failure cuts off; as soon as one does,
    the stream is never that of the measurements again, and the node does not notice. -/
theorem sensor_node_streams (sys : TcpSystem) (loops : Nat) (argv : List (List Char))
    (os : ActiveAnswers) (inputs : List NodeInput) :
    ∃ s₀, start sys loops argv os = .ok s₀ ∧
      (argv.length ≠ 5 → s₀.exit = some .success ∧ s₀.tcp = .empty ∧ s₀.measured = [] ∧
        s₀.sent = [] ∧
        ∀ input, s₀.step loops input = none) ∧
      ∀ name id sleep ip port, argv = [name, id, sleep, ip, port] →
        ∀ s, run (next loops) s₀ inputs = some s →
          (∀ input fault, s.step loops input ≠ some (.error fault)) ∧
          (s.exit = none → Connected s) ∧
          (s.exit = some .success → Closed s ∧ 1 < loops ∧ inputs.length = loops ∧
            ∀ last, inputs.getLast? = some last →
              s.tcp.descriptors.card = if last.shutdown then 0 else 1) ∧
          s.measured = inputs.map (fun input => input.measurement (UInt16.ofInt (atoi id))) ∧
          ((∀ input ∈ inputs, ¬ input.Partial) → s.sent <+: wireBytes s.measured) ∧
          (s.exit ≠ some .failure →
            (s.sent = wireBytes s.measured ↔ ∀ input ∈ inputs, ¬ input.Partial)) := by
  by_cases hargc : argv.length = 5
  swap
  · refine ⟨_, start_of_length_ne hargc sys loops os,
      fun _ => ⟨rfl, rfl, rfl, rfl, fun _ => rfl⟩, ?_⟩
    rintro name id sleep ip port rfl
    exact absurd rfl hargc
  obtain ⟨name, id, sleep, ip, port, rfl⟩ :
      ∃ name id sleep ip port, argv = [name, id, sleep, ip, port] :=
    match argv, hargc with
    | [name, id, sleep, ip, port], _ => ⟨name, id, sleep, ip, port, rfl⟩
  obtain ⟨s₀, hstart, hinv, hid, hmeasured, hsent⟩ := start_spec sys loops name id sleep ip port os
  refine ⟨s₀, hstart, fun hne => absurd hargc hne, ?_⟩
  rintro _ _ _ _ _ ⟨⟩ s h
  have h0 : Streams loops (UInt16.ofInt (atoi id)) [] s₀ := by
    refine ⟨hinv, hid, hmeasured, ?_, fun _ _ h => nomatch h⟩
    rw [hsent, hmeasured]
    exact ⟨le_rfl, fun _ => List.prefix_rfl, fun _ => by simp [wireBytes]⟩
  have hs : Streams loops (UInt16.ofInt (atoi id)) inputs s :=
    run_invariant h0 (fun _ _ _ _ hP hs => hP.next hs) h
  refine ⟨?_, fun hrunning => (hs.inv.running hrunning).1, ?_, hs.measured, ?_, ?_⟩
  · intro input fault hfault
    rw [step] at hfault
    split_ifs at hfault with hrunning
    obtain ⟨t, hpass, -⟩ := pass_spec hs.inv hrunning input
    rw [hpass] at hfault
    cases hfault
  · intro hsuccess
    obtain ⟨hclosed, hloops, hlength⟩ := hs.inv.success hsuccess
    rw [hs.measured, List.length_map] at hlength
    exact ⟨hclosed, hloops, hlength, hs.descriptors hsuccess⟩
  · intro hnone
    apply hs.sent.isPrefix
    rintro ⟨input, hmem, hpartial⟩
    exact hnone input hmem hpartial
  · intro hexit
    rw [hs.sent.whole_iff (decide_eq_true hexit)]
    simp

def sampleNodeInput (n : Nat) : NodeInput :=
  ⟨0x4034000000000000, 1, .sent 2, .sent n, .sent 8, true⟩

/-- Two passes of a node with `LOOPS` 2: with whole fields, and with one byte of a value missing. -/
theorem sensor_node_streams_sample : ∃ s₀ s s',
    start sampleTcpSystem 2 [[], ['1', '5'], ['1'], ['1'], ['1', '0', '2', '4']]
      ⟨true, true, true, true, true, true, [], 40000⟩ = .ok s₀ ∧
    run (next 2) s₀ [sampleNodeInput 8, sampleNodeInput 8] = some s ∧ Closed s ∧
    s.sent = wireBytes s.measured ∧
    run (next 2) s₀ [sampleNodeInput 7, sampleNodeInput 8] = some s' ∧ s'.exit = some .success ∧
    s'.sent ≠ wireBytes s'.measured := by
  obtain ⟨s₀, hstart, -, hwhole⟩ := sensor_node_streams sampleTcpSystem 2
    [[], ['1', '5'], ['1'], ['1'], ['1', '0', '2', '4']]
    ⟨true, true, true, true, true, true, [], 40000⟩ [sampleNodeInput 8, sampleNodeInput 8]
  obtain ⟨s₁, hstart', -, hcut⟩ := sensor_node_streams sampleTcpSystem 2
    [[], ['1', '5'], ['1'], ['1'], ['1', '0', '2', '4']]
    ⟨true, true, true, true, true, true, [], 40000⟩ [sampleNodeInput 7, sampleNodeInput 8]
  obtain rfl : s₀ = s₁ := Except.ok.inj (hstart.symm.trans hstart')
  obtain ⟨s, s', hs, hexit, hs', hexit'⟩ : ∃ s s',
      run (next 2) s₀ [sampleNodeInput 8, sampleNodeInput 8] = some s ∧ s.exit = some .success ∧
      run (next 2) s₀ [sampleNodeInput 7, sampleNodeInput 8] = some s' ∧
        s'.exit = some .success := by
    obtain rfl := Except.ok.inj hstart
    exact ⟨_, _, rfl, rfl, rfl, rfl⟩
  obtain ⟨-, -, hsuccess, -, -, hiff⟩ := hwhole _ _ _ _ _ rfl s hs
  obtain ⟨-, -, -, -, -, hiff'⟩ := hcut _ _ _ _ _ rfl s' hs'
  refine ⟨s₀, s, s', hstart, hs, (hsuccess hexit).1, ?_, hs', hexit', ?_⟩
  · rw [hiff (by simp [hexit])]
    simp [sampleNodeInput, NodeInput.Partial, SensorGateway.Partial, Send.taken]
  · rw [Ne, hiff' (by simp [hexit'])]
    simp [sampleNodeInput, NodeInput.Partial, SensorGateway.Partial, Send.taken]

end SensorNode

end SensorGateway
