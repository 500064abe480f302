import Mathlib.Tactic
import SensorGateway.Connmgr.Connmgr
import SensorGateway.Lib.Transition
import SensorGateway.Tcp.Tcpsock

/-!
# What the sockets hold and what they lose

Every call does one of four things: it leaves the blocks and the descriptors as they were, it opens
a socket, it closes one, or it loses a descriptor. From this follow the ownership of the blocks and
of the descriptors in every run, and when a descriptor is lost.
-/

namespace SensorGateway

open Transition PtrHeap TcpState

variable {sys : TcpSystem} {w : TcpState} {p : Nat} {t : Tcpsock} {sock : Ptr} {call : TcpCall}

/-! ## Single statements -/

theorem update_eq_some_iff {β : Type} {f : Nat → Option β} {x y : β} {q : Nat} :
    Function.update f p (some x) q = some y ↔ q = p ∧ y = x ∨ q ≠ p ∧ f q = some y := by
  by_cases hqp : q = p
  · simp [hqp, eq_comm]
  · simp [hqp]

theorem update_none_eq_some_iff {β : Type} {f : Nat → Option β} {y : β} {q : Nat} :
    Function.update f p none q = some y ↔ q ≠ p ∧ f q = some y := by
  by_cases hqp : q = p
  · simp [hqp]
  · simp [hqp]

/-- The state with this socket at the address `p`. -/
def TcpState.withSocket (p : Nat) (t : Tcpsock) (w : TcpState) : TcpState :=
  { w with sockets := w.sockets.write p t }

@[simp] theorem withSocket_texts : (w.withSocket p t).texts = w.texts := rfl

@[simp] theorem withSocket_descriptors : (w.withSocket p t).descriptors = w.descriptors := rfl

theorem assign_withSocket (f : Tcpsock → Tcpsock) :
    (w.withSocket p t).assign (some p) f = .ok (w.withSocket p (f t)) := by
  simp [assign, withSocket, Heap.modify, Heap.write_write]

theorem freeSocket_withSocket :
    (w.withSocket p t).freeSocket (some p) =
    .ok { w with sockets := (w.sockets.write p t).erase p } := by
  simp [freeSocket, withSocket, Heap.free]

theorem tcpGiveUp_withSocket (code : TcpCode) : tcpGiveUp (some p) sock code (w.withSocket p t) =
    .ok (code, sock, { w with sockets := (w.sockets.write p t).erase p }) := by
  rw [tcpGiveUp, freeSocket_withSocket, ok_bind]

/-- The address of the next socket. -/
def TcpSystem.next (sys : TcpSystem) (w : TcpState) : Nat := sys.sockets.malloc w.sockets

theorem cells_next : w.sockets.cells (sys.next w) = none := sys.sockets.malloc_unused w.sockets

/-- The state with one more descriptor. -/
def TcpState.withDescriptor (sys : TcpSystem) (w : TcpState) : TcpState :=
  { w with descriptors := insert (sys.descriptor w.descriptors) w.descriptors }

theorem tcpSockCreate_true :
    tcpSockCreate sys true w = (some (sys.next w), w.withSocket (sys.next w) ⟨0, -1, none, -1⟩) :=
      rfl

theorem newDescriptor_true : newDescriptor sys true (w.withSocket p t) =
    ((sys.descriptor w.descriptors : Int), (w.withDescriptor sys).withSocket p t) := rfl

theorem newDescriptor_false : newDescriptor sys false w = (-1, w) := rfl

/-- The state with one more address. -/
def TcpState.withText (sys : TcpSystem) (ip : List Char) (w : TcpState) : TcpState :=
  { w with texts := w.texts.write (sys.texts.malloc w.texts) (ip.take charIpAddrLength) }

theorem newText_true (ip : List Char) : newText sys true ip (w.withSocket p t) =
    (some (sys.texts.malloc w.texts), (w.withText sys ip).withSocket p t) := rfl

theorem newText_false (ip : List Char) : newText sys false ip w = (none, w) := rfl

/-! ## The effect of a call -/

/-- What a call returns, and whether it loses a descriptor. -/
inductive TcpEffect (w : TcpState) (call : TcpCall) : Bool → TcpReturn → Prop where
  | failed (code : TcpCode) (sock : Ptr) (v : TcpState) (hcode : code ≠ .noError)
      (hs : v.sockets.cells = w.sockets.cells) (ht : v.texts.cells = w.texts.cells)
      (hd : v.descriptors = w.descriptors) : TcpEffect w call false (code, sock, v)
  | lost (code : TcpCode) (sock : Ptr) (v : TcpState) (sd : Nat) (hcode : code ≠ .noError)
      (hsd : sd ∉ w.descriptors) (hs : v.sockets.cells = w.sockets.cells)
      (ht : v.texts.cells = w.texts.cells) (hd : v.descriptors = insert sd w.descriptors) :
      TcpEffect w call true (code, sock, v)
  | opened (v : TcpState) (p sd : Nat) (ipAddr : Ptr) (port : Int)
      (hcall : ∀ socket shutdown, call ≠ .close socket shutdown) (hp : w.sockets.cells p = none)
      (hsd : sd ∉ w.descriptors) (hip : ∀ a, ipAddr = some a → w.texts.cells a = none)
      (hs : v.sockets.cells =
        Function.update w.sockets.cells p (some ⟨magicCookie, sd, ipAddr, port⟩))
      (ht : ∀ a, v.texts.cells a ≠ none ↔ ipAddr = some a ∨ w.texts.cells a ≠ none)
      (hd : v.descriptors = insert sd w.descriptors) :
      TcpEffect w call false (.noError, some p, v)
  | closed (v : TcpState) (p : Nat) (t : Tcpsock) (shutdown : Bool)
      (hcall : call = .close (some p) shutdown) (hp : w.sockets.cells p = some t)
      (hs : v.sockets.cells = Function.update w.sockets.cells p none)
      (ht : ∀ a, v.texts.cells a ≠ none ↔ t.ipAddr ≠ some a ∧ w.texts.cells a ≠ none)
      (hd : v.descriptors = if shutdown then w.descriptors.erase t.sd.toNat else w.descriptors) :
      TcpEffect w call (!shutdown) (.noError, none, v)

/-- The calls that lose a descriptor: an opening that goes wrong after `socket` or `accept` has
    given one, and a closing whose `shutdown` fails. -/
def TcpCall.Loses : TcpCall → Prop
  | .passiveOpen port os =>
    minPort ≤ port ∧ port ≤ maxPort ∧ os.memory ∧ os.socket ∧ ¬ (os.bind ∧ os.listen)
  | .activeOpen port ip os =>
    minPort ≤ port ∧ port ≤ maxPort ∧ ip ≠ none ∧ os.memory ∧ os.socket ∧
      ¬ (os.inetAton ∧ os.connect ∧ os.getsockname ∧ os.textMemory)
  | .waitForConnection socket os => socket ≠ none ∧ os.memory ∧ os.accept ∧ ¬ os.textMemory
  | .close socket shutdown => socket ≠ none ∧ ¬ shutdown

instance : DecidablePred TcpCall.Loses
  | .passiveOpen _ _ => inferInstanceAs (Decidable (_ ∧ _))
  | .activeOpen _ _ _ => inferInstanceAs (Decidable (_ ∧ _))
  | .waitForConnection _ _ => inferInstanceAs (Decidable (_ ∧ _))
  | .close _ _ => inferInstanceAs (Decidable (_ ∧ _))

/-- The result of a call. -/
def Returns (w : TcpState) (call : TcpCall) (r : Except Fault TcpReturn) : Prop :=
  ∃ b out, r = .ok out ∧ (b = true ↔ call.Loses) ∧ TcpEffect w call b out

/-- A socket that was created is freed, and nothing else has happened. -/
theorem returns_failed (code : TcpCode) (hcode : code ≠ .noError) (hloses : ¬ call.Loses)
    (t : Tcpsock) : Returns w call (tcpGiveUp (some (sys.next w)) sock code
      (w.withSocket (sys.next w) t)) := by
  refine ⟨false, _, tcpGiveUp_withSocket code, iff_of_false (by simp) hloses, ?_⟩
  exact .failed code sock _ hcode (Heap.write_erase_cells cells_next _) rfl rfl

/-- A socket that was created is freed, but not its descriptor. -/
theorem returns_lost (code : TcpCode) (hcode : code ≠ .noError) (hloses : call.Loses)
    (t : Tcpsock) : Returns w call (tcpGiveUp (some (sys.next w)) sock code
      ((w.withDescriptor sys).withSocket (sys.next w) t)) := by
  refine ⟨true, _, tcpGiveUp_withSocket code, iff_of_true rfl hloses, ?_⟩
  exact .lost code sock _ _ hcode (sys.descriptor_unused _)
    (Heap.write_erase_cells cells_next _) rfl rfl

/-- What follows the creation decides, when it has given a descriptor. -/
theorem returns_newSocket {memory ok : Bool} {rest : Ptr → TcpState → Except Fault TcpReturn}
    (hloses : call.Loses → memory = true ∧ ok = true)
    (hrest : memory = true → ok = true → Returns w call (rest (some (sys.next w))
      ((w.withDescriptor sys).withSocket (sys.next w)
        ⟨0, sys.descriptor w.descriptors, none, -1⟩))) :
    Returns w call (tcpNewSocket sys sock memory ok rest w) := by
  unfold tcpNewSocket
  cases memory with
  | false =>
    have hnot : ¬ call.Loses := fun h => absurd (hloses h).1 (by simp)
    exact ⟨false, _, rfl, iff_of_false (by simp) hnot,
      .failed .memoryError sock w (by simp) rfl rfl rfl⟩
  | true =>
    rw [tcpSockCreate_true]
    dsimp only
    rw [if_neg (Option.some_ne_none _)]
    cases ok with
    | false =>
      have hnot : ¬ call.Loses := fun h => absurd (hloses h).2 (by simp)
      rw [newDescriptor_false, assign_withSocket, ok_bind, if_pos (by simp)]
      exact returns_failed .sockopError (by simp) hnot _
    | true =>
      rw [newDescriptor_true, assign_withSocket, ok_bind, if_neg (by simp)]
      exact hrest rfl rfl

/-- A failure before anything was created. -/
theorem returns_unchanged (code : TcpCode) (hcode : code ≠ .noError) (hloses : ¬ call.Loses) :
    Returns w call (.ok (code, sock, w)) :=
  ⟨false, _, rfl, iff_of_false (by simp) hloses, .failed code sock w hcode rfl rfl rfl⟩

theorem returns_passiveOpen (sys : TcpSystem) (sock : Ptr) (port : Int) (os : PassiveAnswers) :
    Returns w (.passiveOpen port os) (tcpPassiveOpen sys sock port os w) := by
  unfold tcpPassiveOpen
  by_cases hport : port < minPort ∨ port > maxPort
  · rw [if_pos hport]
    refine returns_unchanged .addressError (by simp) ?_
    rintro ⟨hmin, hmax, -⟩
    omega
  · rw [if_neg hport]
    refine returns_newSocket (fun h => ⟨h.2.2.1, h.2.2.2.1⟩) ?_
    intro hmemory hsocket
    have hlost : ¬ (os.bind ∧ os.listen) → (TcpCall.passiveOpen port os).Loses := fun h =>
      ⟨by omega, by omega, hmemory, hsocket, h⟩
    by_cases hbind : os.bind = true
    · rw [if_neg (not_not.mpr hbind)]
      by_cases hlisten : os.listen = true
      · rw [if_neg (not_not.mpr hlisten), assign_withSocket, ok_bind]
        have hloses : ¬ (TcpCall.passiveOpen port os).Loses := by
          simp [TcpCall.Loses, hbind, hlisten]
        refine ⟨false, _, rfl, iff_of_false (by simp) hloses, ?_⟩
        exact .opened _ _ _ none port (by simp) cells_next (sys.descriptor_unused _) (by simp) rfl
          (by simp [withDescriptor]) rfl
      · rw [if_pos hlisten]
        exact returns_lost .sockopError (by simp) (hlost fun h => hlisten h.2) _
    · rw [if_pos hbind]
      exact returns_lost .sockopError (by simp) (hlost fun h => hbind h.1) _

/-- The address of a socket is a block of its own. -/
theorem returns_name (textMemory : Bool) (ip : List Char) (port : UInt16)
    (hcall : ∀ socket shutdown, call ≠ .close socket shutdown)
    (hloses : call.Loses ↔ ¬ textMemory) : Returns w call
      (tcpName sys sock textMemory ip port (some (sys.next w))
        ((w.withDescriptor sys).withSocket (sys.next w)
          ⟨0, sys.descriptor w.descriptors, none, -1⟩)) := by
  unfold tcpName
  cases textMemory with
  | false =>
    rw [newText_false]
    dsimp only
    rw [assign_withSocket, ok_bind, if_pos rfl]
    exact returns_lost .memoryError (by simp) (hloses.mpr (by simp)) _
  | true =>
    rw [newText_true]
    dsimp only
    rw [assign_withSocket, ok_bind, if_neg (Option.some_ne_none _), assign_withSocket, ok_bind]
    refine ⟨false, _, rfl, iff_of_false (by simp) (by simp [hloses]), ?_⟩
    refine .opened _ _ _ (some (sys.texts.malloc w.texts)) port.toNat hcall cells_next
      (sys.descriptor_unused _) ?_ rfl ?_ rfl
    · intro a ha
      obtain rfl := Option.some.inj ha
      exact sys.texts.malloc_unused w.texts
    · intro a
      rw [Option.some_inj, eq_comm]
      exact Heap.write_ne_none_iff a

theorem returns_activeOpen (sys : TcpSystem) (sock : Ptr) (port : Int) (ip : Option (List Char))
    (os : ActiveAnswers) :
    Returns w (.activeOpen port ip os) (tcpActiveOpen sys sock port ip os w) := by
  unfold tcpActiveOpen
  by_cases hport : port < minPort ∨ port > maxPort
  · rw [if_pos hport]
    refine returns_unchanged .addressError (by simp) ?_
    rintro ⟨hmin, hmax, -⟩
    omega
  rw [if_neg hport]
  by_cases hip : ip = none
  · rw [if_pos hip]
    exact returns_unchanged .addressError (by simp) fun h => h.2.2.1 hip
  rw [if_neg hip]
  refine returns_newSocket (fun h => ⟨h.2.2.2.1, h.2.2.2.2.1⟩) ?_
  intro hmemory hsocket
  have hlost : (TcpCall.activeOpen port ip os).Loses ↔
      ¬ (os.inetAton ∧ os.connect ∧ os.getsockname ∧ os.textMemory) := by
    have hmin : minPort ≤ port := by omega
    have hmax : port ≤ maxPort := by omega
    simp [TcpCall.Loses, hmin, hmax, hip, hmemory, hsocket]
  by_cases haton : os.inetAton = true
  swap
  · rw [if_pos haton]
    exact returns_lost .addressError (by simp) (hlost.mpr fun h => haton h.1) _
  by_cases hconnect : os.connect = true
  swap
  · rw [if_neg (not_not.mpr haton), if_pos hconnect]
    exact returns_lost .sockopError (by simp) (hlost.mpr fun h => hconnect h.2.1) _
  by_cases hname : os.getsockname = true
  swap
  · rw [if_neg (not_not.mpr haton), if_neg (not_not.mpr hconnect), if_pos hname]
    exact returns_lost .sockopError (by simp) (hlost.mpr fun h => hname h.2.2.1) _
  rw [if_neg (not_not.mpr haton), if_neg (not_not.mpr hconnect), if_neg (not_not.mpr hname)]
  refine returns_name os.textMemory os.ip os.port (by simp) (hlost.trans ?_)
  simp [haton, hconnect, hname]

/-! ## The invariant -/

/-- What holds between two calls. -/
structure TcpInv (w : TcpState) : Prop where
  bound : ∀ p t, w.sockets.cells p = some t → t.cookie = magicCookie
  held : ∀ p t, w.sockets.cells p = some t → 0 ≤ t.sd ∧ t.sd.toNat ∈ w.descriptors
  sd_inj : ∀ p q t u, w.sockets.cells p = some t → w.sockets.cells q = some u → t.sd = u.sd → p = q
  texts : ∀ a, w.texts.cells a ≠ none ↔ ∃ p t, w.sockets.cells p = some t ∧ t.ipAddr = some a
  text_inj : ∀ p q t u a, w.sockets.cells p = some t → w.sockets.cells q = some u →
    t.ipAddr = some a → u.ipAddr = some a → p = q

/-- The pointer is NULL or a socket. -/
def Valid (w : TcpState) (socket : Ptr) : Prop := ∀ p, socket = some p → w.sockets.cells p ≠ none

def TcpCall.Valid (w : TcpState) : TcpCall → Prop
  | .passiveOpen _ _ | .activeOpen _ _ _ => True
  | .waitForConnection socket _ | .close socket _ => SensorGateway.Valid w socket

theorem returns_waitForConnection (hI : TcpInv w) (sys : TcpSystem) {socket : Ptr} (sock : Ptr)
    (os : AcceptAnswers) (hvalid : Valid w socket) :
    Returns w (.waitForConnection socket os) (tcpWaitForConnection sys socket sock os w) := by
  unfold tcpWaitForConnection
  cases socket with
  | none => exact returns_unchanged .socketError (by simp) fun h => h.1 rfl
  | some p =>
    obtain ⟨t, ht⟩ := Option.ne_none_iff_exists'.mp (hvalid p rfl)
    rw [if_neg (Option.some_ne_none p), Heap.load_some ht, ok_bind,
      if_neg (not_not.mpr (hI.bound p t ht))]
    refine returns_newSocket (fun h => ⟨h.2.1, h.2.2.1⟩) ?_
    intro hmemory haccept
    refine returns_name os.textMemory os.ip os.port (by simp) ?_
    simp [TcpCall.Loses, hmemory, haccept]

theorem exists_release (shutdown : Bool) (hip : ∀ a, t.ipAddr = some a → w.texts.cells a ≠ none)
    (hsd : 0 ≤ t.sd) : ∃ v, tcpRelease t shutdown w = .ok v ∧ v.sockets = w.sockets ∧
      (∀ a, v.texts.cells a ≠ none ↔ t.ipAddr ≠ some a ∧ w.texts.cells a ≠ none) ∧
      v.descriptors = if shutdown then w.descriptors.erase t.sd.toNat else w.descriptors := by
  obtain ⟨texts, hfree, htexts⟩ := Heap.exists_free hip
  unfold tcpRelease
  rw [hfree, ok_bind]
  cases shutdown with
  | true =>
    rw [if_pos ⟨hsd, rfl⟩]
    exact ⟨_, rfl, rfl, htexts, rfl⟩
  | false =>
    rw [if_neg (by simp)]
    exact ⟨_, rfl, rfl, htexts, rfl⟩

/-- A socket is closed, whatever `shutdown` returns. -/
theorem exists_close (hI : TcpInv w) (ht : w.sockets.cells p = some t) (shutdown : Bool) :
    ∃ v, tcpClose (some p) shutdown w = .ok (.noError, none, v) ∧
      v.sockets.cells = Function.update w.sockets.cells p none ∧
      (∀ a, v.texts.cells a ≠ none ↔ t.ipAddr ≠ some a ∧ w.texts.cells a ≠ none) ∧
      v.descriptors = if shutdown then w.descriptors.erase t.sd.toNat else w.descriptors := by
  unfold tcpClose
  obtain ⟨v, hrelease, hs, htexts, hd⟩ := exists_release shutdown
    (fun a ha => (hI.texts a).mpr ⟨p, t, ht, ha⟩) (hI.held p t ht).1
  rw [if_neg (Option.some_ne_none p), Heap.load_some ht, ok_bind,
    if_pos (hI.bound p t ht), hrelease,
    ok_bind]
  have hassign : v.assign (some p) (fun _ => ⟨0, -1, none, -1⟩) =
      .ok (v.withSocket p ⟨0, -1, none, -1⟩) := by
    simp [assign, withSocket, Heap.modify, hs, ht]
  dsimp only
  rw [hassign, ok_bind, freeSocket_withSocket, ok_bind]
  refine ⟨_, rfl, ?_, htexts, hd⟩
  rw [hs]
  simp [Heap.erase, Heap.write]

theorem returns_close (hI : TcpInv w) {socket : Ptr} (shutdown : Bool) (hvalid : Valid w socket) :
    Returns w (.close socket shutdown) (tcpClose socket shutdown w) := by
  cases socket with
  | none => exact returns_unchanged .socketError (by simp) fun h => h.1 rfl
  | some p =>
    obtain ⟨t, ht⟩ := Option.ne_none_iff_exists'.mp (hvalid p rfl)
    obtain ⟨v, hclose, hs, htexts, hd⟩ := exists_close hI ht shutdown
    exact ⟨!shutdown, _, hclose, by simp [TcpCall.Loses],
      .closed v p t shutdown rfl ht hs htexts hd⟩

/-- Every call on valid pointers returns. -/
theorem returns_run (hI : TcpInv w) (sys : TcpSystem) (hvalid : call.Valid w) :
    Returns w call (call.run sys w) := by
  cases call with
  | passiveOpen port os => exact returns_passiveOpen sys none port os
  | activeOpen port ip os => exact returns_activeOpen sys none port ip os
  | waitForConnection socket os => exact returns_waitForConnection hI sys none os hvalid
  | close socket shutdown => exact returns_close hI shutdown hvalid

/-! ## Steps and runs -/

theorem tcpInv_empty : TcpInv .empty where
  bound := fun p t h => nomatch h
  held := fun p t h => nomatch h
  sd_inj := fun p q t u h => nomatch h
  texts := fun a => by simp [TcpState.empty, Heap.empty]
  text_inj := fun p q t u a h => nomatch h

/-- A pointer that is neither NULL nor a socket makes the call fault. -/
theorem valid_of_step {v : TcpState} (h : tcpStep sys w call = some v) : call.Valid w := by
  cases call with
  | passiveOpen | activeOpen => trivial
  | waitForConnection socket os =>
    rintro p rfl hnone
    simp [tcpStep, TcpCall.run, tcpWaitForConnection, Heap.load, hnone, Except.toOption, bind,
      Except.bind] at h
  | close socket shutdown =>
    rintro p rfl hnone
    simp [tcpStep, TcpCall.run, tcpClose, Heap.load, hnone, Except.toOption, bind, Except.bind] at h

/-- The blocks are the same, and no descriptor was closed. -/
theorem TcpInv.mono {v : TcpState} (hI : TcpInv w) (hs : v.sockets.cells = w.sockets.cells)
    (ht : v.texts.cells = w.texts.cells) (hd : w.descriptors ⊆ v.descriptors) : TcpInv v where
  bound := by rw [hs]; exact hI.bound
  held := fun p t h => by
    rw [hs] at h
    exact ⟨(hI.held p t h).1, hd (hI.held p t h).2⟩
  sd_inj := by rw [hs]; exact hI.sd_inj
  texts := by rw [hs, ht]; exact hI.texts
  text_inj := by rw [hs]; exact hI.text_inj

theorem tcpInv_opened {v : TcpState} {sd : Nat} {ipAddr : Ptr} {port : Int} (hI : TcpInv w)
    (hp : w.sockets.cells p = none) (hsd : sd ∉ w.descriptors)
    (hip : ∀ a, ipAddr = some a → w.texts.cells a = none)
    (hs : v.sockets.cells =
      Function.update w.sockets.cells p (some ⟨magicCookie, sd, ipAddr, port⟩))
    (ht : ∀ a, v.texts.cells a ≠ none ↔ ipAddr = some a ∨ w.texts.cells a ≠ none)
    (hd : v.descriptors = insert sd w.descriptors) : TcpInv v := by
  have hcases : ∀ q t, v.sockets.cells q = some t →
      q = p ∧ t = ⟨magicCookie, sd, ipAddr, port⟩ ∨ q ≠ p ∧ w.sockets.cells q = some t := by
    intro q t hq
    rw [hs] at hq
    exact update_eq_some_iff.mp hq
  -- an old socket has neither the new descriptor nor the new address
  have hold : ∀ q t, w.sockets.cells q = some t → t.sd ≠ sd ∧
      ∀ a, ipAddr = some a → t.ipAddr ≠ some a := by
    intro q t hq
    refine ⟨?_, ?_⟩
    · intro heq
      have hmem := (hI.held q t hq).2
      rw [heq] at hmem
      exact hsd hmem
    · intro a ha heq
      exact (hI.texts a).mpr ⟨q, t, hq, heq⟩ (hip a ha)
  refine ⟨?_, ?_, ?_, ?_, ?_⟩
  · intro q t hq
    rcases hcases q t hq with ⟨-, rfl⟩ | ⟨-, hq⟩
    · rfl
    · exact hI.bound q t hq
  · intro q t hq
    rw [hd]
    rcases hcases q t hq with ⟨-, rfl⟩ | ⟨-, hq⟩
    · exact ⟨Int.natCast_nonneg sd, Finset.mem_insert_self sd _⟩
    · exact ⟨(hI.held q t hq).1, Finset.mem_insert_of_mem (hI.held q t hq).2⟩
  · intro q r t u hq hr heq
    rcases hcases q t hq with ⟨rfl, rfl⟩ | ⟨-, hq⟩ <;>
      rcases hcases r u hr with ⟨rfl, rfl⟩ | ⟨-, hr⟩
    · rfl
    · exact absurd heq.symm (hold r u hr).1
    · exact absurd heq (hold q t hq).1
    · exact hI.sd_inj q r t u hq hr heq
  · intro a
    rw [ht, hI.texts]
    constructor
    · rintro (hnew | ⟨q, t, hq, ha⟩)
      · exact ⟨p, _, by rw [hs, Function.update_self], hnew⟩
      · have hqp : q ≠ p := by
          rintro rfl
          rw [hp] at hq
          cases hq
        exact ⟨q, t, by rw [hs, Function.update_of_ne hqp, hq], ha⟩
    · rintro ⟨q, t, hq, ha⟩
      rcases hcases q t hq with ⟨-, rfl⟩ | ⟨-, hq⟩
      · exact .inl ha
      · exact .inr ⟨q, t, hq, ha⟩
  · intro q r t u a hq hr hta hua
    rcases hcases q t hq with ⟨rfl, rfl⟩ | ⟨-, hq⟩ <;>
      rcases hcases r u hr with ⟨rfl, rfl⟩ | ⟨-, hr⟩
    · rfl
    · exact absurd hua ((hold r u hr).2 a hta)
    · exact absurd hta ((hold q t hq).2 a hua)
    · exact hI.text_inj q r t u a hq hr hta hua

theorem tcpInv_closed {v : TcpState} {shutdown : Bool} (hI : TcpInv w)
    (hp : w.sockets.cells p = some t)
    (hs : v.sockets.cells = Function.update w.sockets.cells p none)
    (ht : ∀ a, v.texts.cells a ≠ none ↔ t.ipAddr ≠ some a ∧ w.texts.cells a ≠ none)
    (hd : v.descriptors = if shutdown then w.descriptors.erase t.sd.toNat else w.descriptors) :
    TcpInv v := by
  have hcases : ∀ q u, v.sockets.cells q = some u ↔ q ≠ p ∧ w.sockets.cells q = some u := by
    intro q u
    rw [hs]
    exact update_none_eq_some_iff
  refine ⟨?_, ?_, ?_, ?_, ?_⟩
  · intro q u hq
    exact hI.bound q u ((hcases q u).mp hq).2
  · intro q u hq
    obtain ⟨hqp, hq⟩ := (hcases q u).mp hq
    obtain ⟨hpos, hmem⟩ := hI.held q u hq
    refine ⟨hpos, ?_⟩
    rw [hd]
    cases shutdown with
    | false => exact hmem
    | true =>
      refine Finset.mem_erase.mpr ⟨fun heq => hqp (hI.sd_inj q p u t hq hp ?_), hmem⟩
      have hpos' := (hI.held p t hp).1
      omega
  · intro q r u u' hq hr
    exact hI.sd_inj q r u u' ((hcases q u).mp hq).2 ((hcases r u').mp hr).2
  · intro a
    rw [ht, hI.texts]
    constructor
    · rintro ⟨hne, q, u, hq, ha⟩
      refine ⟨q, u, (hcases q u).mpr ⟨?_, hq⟩, ha⟩
      rintro rfl
      rw [hp] at hq
      obtain rfl := Option.some.inj hq
      exact hne ha
    · rintro ⟨q, u, hq, ha⟩
      obtain ⟨hqp, hq⟩ := (hcases q u).mp hq
      exact ⟨fun hta => hqp (hI.text_inj q p u t a hq hp ha hta), q, u, hq, ha⟩
  · intro q r u u' a hq hr
    exact hI.text_inj q r u u' a ((hcases q u).mp hq).2 ((hcases r u').mp hr).2

theorem tcpInv_effect {b : Bool} {out : TcpReturn} (hI : TcpInv w) (h : TcpEffect w call b out) :
    TcpInv out.2.2 := by
  cases h with
  | failed code sock v hcode hs ht hd => exact hI.mono hs ht (by rw [hd])
  | lost code sock v sd hcode hsd hs ht hd =>
    exact hI.mono hs ht (by rw [hd]; exact Finset.subset_insert _ _)
  | opened v p sd ipAddr port hcall hp hsd hip hs ht hd =>
    exact tcpInv_opened hI hp hsd hip hs ht hd
  | closed v p t shutdown hcall hp hs ht hd => exact tcpInv_closed hI hp hs ht hd

/-- What a step does to the state. -/
theorem effect_of_step {v : TcpState} (hI : TcpInv w) (h : tcpStep sys w call = some v) :
    ∃ b code sock, (b = true ↔ call.Loses) ∧ TcpEffect w call b (code, sock, v) := by
  obtain ⟨b, ⟨code, sock, v'⟩, hrun, hb, heffect⟩ := returns_run hI sys (valid_of_step h)
  rw [tcpStep, hrun] at h
  obtain rfl := Option.some.inj h
  exact ⟨b, code, sock, hb, heffect⟩

theorem tcpInv_of_reach (h : Reach (tcpStep sys) .empty w) : TcpInv w := by
  refine h.invariant (P := TcpInv) tcpInv_empty ?_
  intro w call v hI _ hs
  obtain ⟨b, code, sock, -, heffect⟩ := effect_of_step hI hs
  exact tcpInv_effect hI heffect

/-- The open descriptors that no socket holds. -/
def Lost (w : TcpState) (lost : Finset Nat) : Prop :=
  ∀ sd : Nat, sd ∈ lost ↔
    sd ∈ w.descriptors ∧ ∀ p t, w.sockets.cells p = some t → t.sd ≠ sd

/-- The call adds one descriptor to those that are lost, or none; it gives none back. -/
theorem lost_effect {b : Bool} {out : TcpReturn} {lost : Finset Nat} (hI : TcpInv w)
    (hlost : Lost w lost) (h : TcpEffect w call b out) :
    ∃ lost', Lost out.2.2 lost' ∧ lost'.card = lost.card + if b then 1 else 0 := by
  cases h with
  | failed code sock v hcode hs ht hd =>
    refine ⟨lost, ?_, rfl⟩
    intro sd
    rw [hlost, hs, hd]
  | lost code sock v new hcode hsd hs ht hd =>
    have hnew : new ∉ lost := fun hmem => hsd ((hlost new).mp hmem).1
    refine ⟨insert new lost, ?_, Finset.card_insert_of_notMem hnew⟩
    intro sd
    dsimp only
    rw [Finset.mem_insert, hlost, hs, hd, Finset.mem_insert]
    constructor
    · rintro (rfl | ⟨hmem, hfree⟩)
      · refine ⟨.inl rfl, ?_⟩
        intro p t ht heq
        have hheld := (hI.held p t ht).2
        rw [heq] at hheld
        exact hsd hheld
      · exact ⟨.inr hmem, hfree⟩
    · rintro ⟨rfl | hmem, hfree⟩
      · exact .inl rfl
      · exact .inr ⟨hmem, hfree⟩
  | opened v p new ipAddr port hcall hp hsd hip hs ht hd =>
    refine ⟨lost, ?_, rfl⟩
    intro sd
    dsimp only
    rw [hlost, hd, Finset.mem_insert]
    constructor
    · rintro ⟨hmem, hfree⟩
      refine ⟨.inr hmem, ?_⟩
      intro q t hq
      rw [hs] at hq
      rcases update_eq_some_iff.mp hq with ⟨-, rfl⟩ | ⟨-, hq⟩
      · intro heq
        obtain rfl : new = sd := Int.ofNat_inj.mp heq
        exact hsd hmem
      · exact hfree q t hq
    · rintro ⟨hmem, hfree⟩
      have hne := hfree p ⟨magicCookie, new, ipAddr, port⟩ (by rw [hs, Function.update_self])
      refine ⟨hmem.resolve_left fun heq => hne (by rw [heq]), ?_⟩
      intro q t hq
      have hqp : q ≠ p := by
        rintro rfl
        rw [hp] at hq
        cases hq
      exact hfree q t (by rw [hs, Function.update_of_ne hqp, hq])
  | closed v p t shutdown hcall hp hs ht hd =>
    obtain ⟨hpos, hheld⟩ := hI.held p t hp
    -- the sockets that remain hold other descriptors than the closed one
    have hother : ∀ q u, v.sockets.cells q = some u ↔ w.sockets.cells q = some u ∧ u.sd ≠ t.sd := by
      intro q u
      rw [hs, update_none_eq_some_iff, and_comm]
      refine and_congr_right fun hq => not_congr ⟨?_, fun heq => hI.sd_inj q p u t hq hp heq⟩
      rintro rfl
      rw [hp] at hq
      rw [Option.some.inj hq]
    have hcast : ∀ sd : Nat, t.sd = sd ↔ t.sd.toNat = sd := fun sd => by omega
    cases shutdown with
    | true =>
      refine ⟨lost, ?_, rfl⟩
      intro sd
      dsimp only
      rw [hlost, hd, if_pos rfl, Finset.mem_erase]
      constructor
      · rintro ⟨hmem, hfree⟩
        refine ⟨⟨fun heq => hfree p t hp ((hcast sd).mpr heq.symm), hmem⟩, ?_⟩
        intro q u hq
        exact hfree q u ((hother q u).mp hq).1
      · rintro ⟨⟨hne, hmem⟩, hfree⟩
        refine ⟨hmem, ?_⟩
        intro q u hq heq
        refine hfree q u ((hother q u).mpr ⟨hq, ?_⟩) heq
        intro hsame
        exact hne ((hcast sd).mp (hsame.symm.trans heq)).symm
    | false =>
      have hnew : t.sd.toNat ∉ lost := fun hmem =>
        ((hlost _).mp hmem).2 p t hp (Int.toNat_of_nonneg hpos).symm
      refine ⟨insert t.sd.toNat lost, ?_, Finset.card_insert_of_notMem hnew⟩
      intro sd
      dsimp only
      rw [hd, if_neg (by simp), Finset.mem_insert, hlost]
      constructor
      · rintro (rfl | ⟨hmem, hfree⟩)
        · refine ⟨hheld, ?_⟩
          intro q u hq heq
          exact ((hother q u).mp hq).2 (heq.trans (Int.toNat_of_nonneg hpos))
        · exact ⟨hmem, fun q u hq => hfree q u ((hother q u).mp hq).1⟩
      · rintro ⟨hmem, hfree⟩
        by_cases heq : sd = t.sd.toNat
        · exact .inl heq
        · refine .inr ⟨hmem, ?_⟩
          intro q u hq husd
          refine hfree q u ((hother q u).mpr ⟨hq, ?_⟩) husd
          intro hsame
          exact heq ((hcast sd).mp (hsame.symm.trans husd)).symm

theorem lost_run {v : TcpState} {lost : Finset Nat} {calls : List TcpCall} (hI : TcpInv w)
    (hlost : Lost w lost) (h : run (tcpStep sys) w calls = some v) :
    ∃ lost', Lost v lost' ∧ lost'.card = lost.card + calls.countP TcpCall.Loses := by
  induction calls generalizing w lost with
  | nil =>
    obtain rfl : w = v := by simpa [run, runVia] using h
    exact ⟨lost, hlost, rfl⟩
  | cons call calls ih =>
    rw [run, runVia, if_pos trivial] at h
    obtain ⟨u, hu, hrest⟩ := Option.bind_eq_some_iff.mp h
    obtain ⟨b, code, sock, hb, heffect⟩ := effect_of_step hI hu
    obtain ⟨lost₁, hlost₁, hcard₁⟩ := lost_effect hI hlost heffect
    obtain ⟨lost₂, hlost₂, hcard₂⟩ := ih (tcpInv_effect hI heffect) hlost₁ hrest
    refine ⟨lost₂, hlost₂, ?_⟩
    rw [hcard₂, hcard₁, List.countP_cons]
    simp only [hb, decide_eq_true_eq]
    omega

/-- Whatever calls a program makes on sockets that it has, and whatever the operating system
    answers: the descriptors that stay open without a socket are as many as the calls that went
    wrong after they had a descriptor, or whose `shutdown` failed. -/
theorem lost_descriptors_count (sys : TcpSystem) (calls : List TcpCall) (w : TcpState)
    (h : run (tcpStep sys) .empty calls = some w) :
    ∃ lost : Finset Nat, lost.card = calls.countP TcpCall.Loses ∧
      ∀ sd : Nat, sd ∈ lost ↔
        sd ∈ w.descriptors ∧ ∀ p t, w.sockets.cells p = some t → t.sd ≠ sd := by
  have hempty : Lost .empty ∅ := fun sd => by simp [TcpState.empty]
  obtain ⟨lost, hlost, hcard⟩ := lost_run tcpInv_empty hempty h
  exact ⟨lost, by simpa using hcard, hlost⟩

/-- Never reuses an address or a descriptor; 0, 1 and 2 are the standard streams. -/
def sampleTcpSystem : TcpSystem where
  sockets := .bump
  texts := .bump
  descriptor := fun used => used.sup id + 3
  descriptor_unused := fun used hmem => by
    have hle : id (used.sup id + 3) ≤ used.sup id := Finset.le_sup hmem
    rw [id] at hle
    omega

/-- A server opens, a second one fails at `bind`, a client connects and is closed. -/
def sampleCalls : List TcpCall :=
  [.passiveOpen 1234 ⟨true, true, true, true⟩, .passiveOpen 1234 ⟨true, true, false, true⟩,
    .waitForConnection (some 0) ⟨true, true, true, "127.0.0.1".toList, 40000⟩, .close (some 2) true]

theorem lost_descriptors_count_sample : ∃ w lost, run (tcpStep sampleTcpSystem) .empty sampleCalls =
    some w ∧ lost.card = 1 ∧ lost ⊆ w.descriptors := by
  obtain ⟨w, hw⟩ : ∃ w, run (tcpStep sampleTcpSystem) .empty sampleCalls = some w := ⟨_, rfl⟩
  obtain ⟨lost, hcard, hlost⟩ := lost_descriptors_count sampleTcpSystem sampleCalls w hw
  exact ⟨w, lost, hw, hcard, fun sd hsd => ((hlost sd).mp hsd).1⟩

/-- A socket between two calls is bound. -/
theorem tcpBound_of_socket (hI : TcpInv w) (hp : w.sockets.cells p = some t) :
    tcpBound w (some p) = .ok (some t) := by
  rw [tcpBound, if_neg (Option.some_ne_none p), Heap.load_some hp, ok_bind,
    if_neg (not_not.mpr (hI.bound p t hp))]

/-- In every run of calls on sockets that the program has: the sockets are bound, each with an open
    descriptor and a block for its address of its own, and nothing else is allocated; a call on a
    socket or on NULL does not fault, it fails without a trace, opens a socket or closes one, but
    for the descriptor that it may lose; and the other functions find the socket bound, the queries
    with the values that it holds. -/
theorem tcp_sockets (sys : TcpSystem) (w : TcpState) (h : Reach (tcpStep sys) .empty w) :
    TcpInv w ∧
      (∀ call : TcpCall, call.Valid w → ∃ b out, call.run sys w = .ok out ∧
        (b = true ↔ call.Loses) ∧ TcpEffect w call b out) ∧
      ∀ p t, w.sockets.cells p = some t →
        (∀ fd, w.tcpGetSd (some p) fd =
          .ok (.noError, SensorGateway.tcpGetSd (some t.sd.toNat) fd)) ∧
        (∀ recv bufSize, tcpReceiveFrom w (some p) recv bufSize =
          .ok (tcpReceive (some t.sd.toNat) recv bufSize)) ∧
        (∀ shutdown, ∃ v, tcpClose (some p) shutdown w = .ok (.noError, none, v)) ∧
        (∀ ip, w.tcpGetIpAddr (some p) ip = .ok (.noError, t.ipAddr)) ∧
        ∀ port, w.tcpGetPort (some p) port = .ok (.noError, t.port) := by
  have hI := tcpInv_of_reach h
  refine ⟨hI, fun call hvalid => returns_run hI sys hvalid, ?_⟩
  intro p t hp
  refine ⟨?_, ?_, ?_, ?_, ?_⟩
  · intro fd
    rw [TcpState.tcpGetSd, tcpGet, tcpBound_of_socket hI hp, ok_bind]
    have hsd : (t.sd.toNat : Int) = t.sd := Int.toNat_of_nonneg (hI.held p t hp).1
    simp [SensorGateway.tcpGetSd, hsd]
  · intro recv bufSize
    rw [tcpReceiveFrom, tcpBound_of_socket hI hp, ok_bind]
  · intro shutdown
    obtain ⟨v, hclose, -⟩ := exists_close hI hp shutdown
    exact ⟨v, hclose⟩
  · intro ip
    rw [TcpState.tcpGetIpAddr, tcpGet, tcpBound_of_socket hI hp, ok_bind]
  · intro port
    rw [TcpState.tcpGetPort, tcpGet, tcpBound_of_socket hI hp, ok_bind]

theorem tcp_sockets_sample : ∃ w, run (tcpStep sampleTcpSystem) .empty sampleCalls = some w ∧
    w.tcpGetPort (some 0) 0 = .ok (.noError, 1234) ∧
      w.tcpGetSd (some 0) 0 = .ok (.noError, 3) ∧
      ∃ b out, (TcpCall.close (some 0) true).run sampleTcpSystem w = .ok out ∧
        TcpEffect w (.close (some 0) true) b out := by
  obtain ⟨w, hw, hport, ht⟩ : ∃ w, run (tcpStep sampleTcpSystem) .empty sampleCalls = some w ∧
      w.tcpGetPort (some 0) 0 = .ok (.noError, 1234) ∧
      w.sockets.cells 0 = some ⟨magicCookie, 3, none, 1234⟩ := ⟨_, rfl, rfl, rfl⟩
  have h := tcp_sockets sampleTcpSystem w (reachVia_of_runVia hw)
  have hvalid : (TcpCall.close (some 0) true).Valid w := by
    intro p hp
    obtain rfl := Option.some.inj hp
    simp [ht]
  obtain ⟨b, out, hrun, -, heffect⟩ := h.2.1 (.close (some 0) true) hvalid
  exact ⟨w, hw, hport, (h.2.2 0 _ ht).1 0, b, out, hrun, heffect⟩

end SensorGateway
