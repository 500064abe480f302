import SensorGateway.Gateway.Proofs.FlagProofs
import SensorGateway.Gateway.Proofs.DeliveryProofs

/-!
# Shutdown

A consumer leaves its loop on two facts of different age: the flag as it is now and the result of
its last read. Between that read and the test, measurements can be inserted and the flag can be
written; the consumer then leaves with the buffer non-empty, and its partner blocks at the barrier.
`FreshFlagWrite` and `NoLateInsert` are the conditions on a single step that exclude this. Runs that
meet them shut down cleanly (`cleanShutdown_of_fresh`, `noWedge_of_fresh`), and a step that violates
them can be continued to a state that is not clean.
-/

namespace SensorGateway

open Transition

variable {α : Type} {σ : Consumer → Type}

namespace Gateway

variable {st : Setup α σ} {s s' : Gateway α σ} {acc : (c : Consumer) → σ c}

/-- `c` is past its last look at the buffer, should the flag be 0 at its loop test. -/
def Committed (s : Gateway α σ) (c : Consumer) : Prop :=
  s.pc c = .ended ∨ (s.pc c = .loopTest ∧ s.result c = sbufferNoData)

/-- When the flag falls, no consumer stands at its loop test with an emptiness that is no longer
    true. -/
def FreshFlagWrite (s : Gateway α σ) : Action α → Prop
  | .connmgrEnd | .giveUp => s.threadResultConnmgr ≠ 0 →
      ∀ c, s.pc c = .loopTest → s.result c = sbufferNoData → s.buffer = []
  | _ => True

instance [DecidableEq α] (s : Gateway α σ) (a : Action α) : Decidable (FreshFlagWrite s a) :=
  match a with
  | .connmgrEnd | .giveUp =>
    decidable_of_iff (s.threadResultConnmgr ≠ 0 →
      (s.pc .datamgr = .loopTest → s.result .datamgr = sbufferNoData → s.buffer = []) ∧
      (s.pc .storagemgr = .loopTest → s.result .storagemgr = sbufferNoData → s.buffer = []))
      (imp_congr_right fun _ => (Consumer.forall_iff .datamgr (P := fun c =>
        s.pc c = .loopTest → s.result c = sbufferNoData → s.buffer = [])).symm)
  | .connmgrTest | .sbufferInsert _ | .connmgrNext | .connmgrReturn | .initConnection
  | .loopTest _ | .sbufferGetData _ | .process _ | .loopBarrier _ _ | .remove _ | .prepBarrier _ =>
    .isTrue trivial

/-- After the flag fell, nothing is inserted behind the back of a consumer that is past its last
    look at the buffer. -/
def NoLateInsert (s : Gateway α σ) : Action α → Prop
  | .sbufferInsert _ => s.threadResultConnmgr = 0 → ∀ c, ¬ s.Committed c
  | _ => True

/-- A consumer that is out of its loop has processed everything, and does not leave the other one
    behind at `loop_barrier`. -/
def CleanShutdown (s : Gateway α σ) : Prop :=
  (∀ c, s.pc c = .ended → s.processed c = s.inserted ∧ s.buffer = []) ∧
  ∀ c, s.pc c = .ended → s.pc c.other ≠ .loopBarrier ∧ s.pc c.other ≠ .inLoopBarrier

/-- No consumer is blocked at a barrier that its partner will never reach, and nothing is left in
    the buffer when all three threads are done. -/
def NoWedge (s : Gateway α σ) : Prop :=
  (∀ c, s.pc c = .ended → s.pc c.other ≠ .inLoopBarrier ∧ s.pc c.other ≠ .inPrepBarrier) ∧
  ((∀ c, s.pc c = .ended) → (s.connmgr = .returned ∨ s.connmgr = .ended) → s.buffer = [])

/-! ## The invariant of the guarded runs -/

/-- Once the flag is 0, a committed consumer is right about the buffer. -/
def Settled (s : Gateway α σ) : Prop :=
  s.threadResultConnmgr = 0 → ∀ c, s.Committed c → s.buffer = []

structure ShutdownInv (st : Setup α σ) (s : Gateway α σ) : Prop where
  round : s.RoundInv
  flag : FlagInv st s
  settled : s.Settled

/-- The flag falls: the committed consumers are right about the buffer. -/
theorem settled_of_write (hf : FlagInv st s)
    (hG : s.threadResultConnmgr ≠ 0 →
      ∀ c, s.pc c = .loopTest → s.result c = sbufferNoData → s.buffer = [])
    (h : s.Settled) {c : Consumer} (hc : s.Committed c) : s.buffer = [] := by
  by_cases h0 : s.threadResultConnmgr = 0
  · exact h h0 c hc
  · rcases hc with hc | ⟨hc, hr⟩
    · exact absurd (hf.ended c hc) h0
    · exact hG h0 c hc hr

/-- A step of `c` keeps the buffer settled if it does not commit `c` anew. -/
theorem Settled.update (h : s.Settled) {c : Consumer} {p : Pc}
    (hf : s'.threadResultConnmgr = s.threadResultConnmgr) (hb : s'.buffer = s.buffer)
    (hpc : s'.pc = Function.update s.pc c p) (hr : s'.result c.other = s.result c.other)
    (hc : s'.Committed c → s.threadResultConnmgr = 0 → s.buffer = []) : s'.Settled := by
  intro h0 d hd
  rw [hf] at h0
  rw [hb]
  rcases c.eq_or_other d with rfl | rfl
  · exact hc hd h0
  · refine h h0 c.other ?_
    unfold Committed at hd ⊢
    rw [hpc, hr] at hd
    simpa using hd

theorem settled_step {a : Action α} (hi : ShutdownInv st s) (hw : FreshFlagWrite s a)
    (hn : NoLateInsert s a) (hst : step st s a = some s') : s'.Settled := by
  have h := hi.settled
  cases moves_of_step hst with
  | connmgrEnter | connmgrLeave | connmgrNext | connmgrReturn => exact h
  | connmgrEnd hm =>
    intro _ c hC
    have hC : s.Committed c := hC
    exact settled_of_write (s := s) hi.flag hw h hC
  | insert m => exact fun h0 c hc => absurd hc (hn h0 c)
  | connectOk tries hc =>
    refine h.update (c := .storagemgr) rfl rfl rfl rfl ?_
    intro hC _
    have := hi.flag.fresh .storagemgr (.inl (by rw [hc]; trivial))
    simp [Committed, this] at hC
  | connectRetry tries hc | connectFail tries hc =>
    refine h.update (c := .storagemgr) rfl rfl rfl rfl ?_
    intro hC _
    simp [Committed] at hC
  | giveUp hc =>
    intro _ c hC
    have hr := hi.flag.fresh .storagemgr (.inl (by rw [hc]; trivial))
    cases c with
    | datamgr =>
      have hC : s.Committed .datamgr := hC
      exact settled_of_write (s := s) hi.flag hw h hC
    | storagemgr => simp [Committed, hr] at hC
  | testEnter c hc =>
    exact h.update (c := c) rfl rfl rfl rfl fun hC _ => by simp [Committed] at hC
  | testExit c hc hf hr => exact h.update (c := c) rfl rfl rfl rfl fun _ _ => h hf c (.inr ⟨hc, hr⟩)
  | readEmpty c hc hb => exact h.update (c := c) rfl rfl rfl (by simp) fun _ _ => hb
  | readHead c m rest hc =>
    exact h.update (c := c) rfl rfl rfl (by simp) fun hC _ => by simp [Committed] at hC
  | process c m hc | loopWait c serial hc | removeNone c hc | prepWait c hc =>
    exact h.update (c := c) rfl rfl rfl rfl fun hC _ => by simp [Committed] at hC
  | loopRelease c d serial hc hwait =>
    obtain ⟨rfl, -⟩ := hi.round.loopBarrier_other hc hwait
    intro _ x hC
    simp only [Committed, c.eq_or_other x, if_true] at hC
    split_ifs at hC <;> simp at hC
  | removeHead c m rest hc =>
    obtain ⟨hl, -⟩ := hi.round.removing hc
    intro _ x hC
    rcases c.eq_or_other x with rfl | rfl
    · simp [Committed] at hC
    · simp only [Committed, Consumer.other_ne, ne_eq, not_false_eq_true,
        Function.update_of_ne] at hC
      rcases hC with hC | ⟨hC, -⟩ <;> rw [hC] at hl <;> exact hl.elim
  | prepRelease c d hc hwait =>
    obtain ⟨rfl, hd⟩ := hi.round.prepBarrier_other hc hwait
    have hr : ∀ x, s.result x ≠ sbufferNoData := c.forall_iff.mpr
      ⟨hi.flag.fresh c (.inr (by rw [hc]; trivial)),
        hi.flag.fresh c.other (.inr (by rw [hd]; trivial))⟩
    intro _ x hC
    simp [Committed, c.eq_or_other x, hr x] at hC

/-- Every state of a run that meets both conditions is settled. -/
theorem shutdownInv_of_reach
    (h : ReachVia (step st) (fun s a => FreshFlagWrite s a ∧ NoLateInsert s a) (init acc) s) :
    ShutdownInv st s := by
  refine h.invariant ⟨roundInv_init acc, flagInv_init acc, fun h0 => ?_⟩ fun t a t' hi hG hs =>
    ⟨roundInv_step hi.round hs, flagInv_step hi.round hi.flag hs, settled_step hi hG.1 hG.2 hs⟩
  simp [init, threadRunning] at h0

/-! ## What the invariant says about a consumer that has left its loop -/

theorem ShutdownInv.buffer_nil (hi : ShutdownInv st s) {c : Consumer} (hc : s.pc c = .ended) :
    s.buffer = [] :=
  hi.settled (hi.flag.ended c hc) c (.inl hc)

theorem RoundInv.gathering_of_ended (hi : s.RoundInv) {c : Consumer} (hc : s.pc c = .ended)
    (d : Consumer) : s.Gathering d :=
  hi.gathering (c := c) (by simp [hc]) (by simp [hc, Pc.Leaving]) d

theorem ShutdownInv.processed_eq (hi : ShutdownInv st s) {c : Consumer} (hc : s.pc c = .ended) :
    s.processed c = s.inserted := by
  have hg : s.processed c = s.removed := by
    simpa [Gathering, hc] using hi.round.gathering_of_ended hc c
  rw [hi.round.fifo, hi.buffer_nil hc, hg, List.append_nil]

/-- The partner of a consumer that has left is at no barrier. -/
theorem ShutdownInv.other_free (hi : ShutdownInv st s) {c : Consumer} (hc : s.pc c = .ended) :
    s.pc c.other ≠ .loopBarrier ∧ s.pc c.other ≠ .inLoopBarrier ∧
      s.pc c.other ≠ .inPrepBarrier := by
  have hg := hi.round.gathering_of_ended hc c.other
  have hb := hi.buffer_nil hc
  refine ⟨fun he => ?_, fun he => ?_, fun he => ?_⟩ <;> simp [Gathering, he, hb] at hg

/-! ## What follows from a step that violates a condition -/

variable (st) in
/-- A consumer with a stale emptiness leaves its loop at its next step. -/
theorem exit_of_committed {c : Consumer} (hf : s.threadResultConnmgr = 0) (hc : s.Committed c) :
    ∃ t, Reach (step st) s t ∧ t.pc c = .ended ∧ t.buffer = s.buffer ∧
      t.threadResultConnmgr = 0 := by
  rcases hc with hc | ⟨hc, hr⟩
  · exact ⟨s, .refl, hc, rfl, hf⟩
  · have hs : step st s (.loopTest c) = some { s with pc := Function.update s.pc c .ended } := by
      simp [step, loopTest, hc, hf, hr]
    exact ⟨_, .single ⟨_, trivial, hs⟩, by simp, rfl, hf⟩

/-- After a flag write on a stale emptiness, a consumer is committed and the buffer not empty. -/
theorem committed_of_stale_write {a : Action α} (hw : ¬ FreshFlagWrite s a)
    (hst : step st s a = some s') :
    ∃ c, s'.Committed c ∧ s'.buffer ≠ [] ∧ s'.threadResultConnmgr = 0 := by
  cases moves_of_step hst with
  | connmgrEnd hm =>
    simp only [FreshFlagWrite, not_forall] at hw
    obtain ⟨-, c, hc, hr, hb⟩ := hw
    exact ⟨c, .inr ⟨hc, hr⟩, hb, rfl⟩
  | giveUp hg =>
    simp only [FreshFlagWrite, not_forall] at hw
    obtain ⟨-, c, hc, hr, hb⟩ := hw
    have hne : c ≠ .storagemgr := by
      rintro rfl
      rw [hc] at hg
      cases hg
    exact ⟨c, .inr ⟨by simpa [hne] using hc, hr⟩, hb, rfl⟩
  | _ => exact absurd trivial hw

/-- After a late insertion, a consumer is committed and the buffer not empty. -/
theorem committed_of_late_insert {a : Action α} (hn : ¬ NoLateInsert s a)
    (hst : step st s a = some s') :
    ∃ c, s'.Committed c ∧ s'.buffer ≠ [] ∧ s'.threadResultConnmgr = 0 := by
  cases moves_of_step hst with
  | insert m =>
    simp only [NoLateInsert, not_forall, not_not] at hn
    obtain ⟨hf, c, hc⟩ := hn
    exact ⟨c, hc, by simp, hf⟩
  | _ => exact absurd trivial hn

/-- A state from which the threads can run into a wedge. -/
def CanWedge (st : Setup α σ) (s : Gateway α σ) : Prop := ∃ t, Reach (step st) s t ∧ ¬ t.NoWedge

theorem CanWedge.of_step {a : Action α} (h : CanWedge st s') (hs : step st s a = some s') :
    CanWedge st s := by
  obtain ⟨t, ht, hn⟩ := h
  exact ⟨t, .head ⟨a, trivial, hs⟩ ht, hn⟩

/-- `c` has left its loop while measurements are still in the buffer. -/
structure Deserted (st : Setup α σ) (s : Gateway α σ) (c : Consumer) : Prop where
  round : s.RoundInv
  flag : FlagInv st s
  fallen : s.threadResultConnmgr = 0
  left : s.pc c = .ended
  nonempty : s.buffer ≠ []

/-- A step of the partner that touches neither the flag nor the buffer. -/
theorem Deserted.step {c : Consumer} {a : Action α} {p : Pc} (h : Deserted st s c)
    (hs : step st s a = some s') (hf : s'.threadResultConnmgr = s.threadResultConnmgr)
    (hpc : s'.pc = Function.update s.pc c.other p) (hb : s'.buffer = s.buffer) :
    Deserted st s' c ∧ s'.pc c.other = p where
  left :=
    { round := roundInv_step h.round hs
      flag := flagInv_step h.round h.flag hs
      fallen := hf.trans h.fallen
      left := by rw [hpc]; simp [h.left]
      nonempty := by rw [hb]; exact h.nonempty }
  right := by rw [hpc, Function.update_self]

section Deserted

variable {c : Consumer}

theorem canWedge_of_loopBarrier (h : Deserted st s c) (hd : s.pc c.other = .loopBarrier) :
    CanWedge st s := by
  have hw : s.loopBarrier = [] := h.round.loopBarrier.eq_nil
    (c.forall_iff.mpr ⟨by rw [h.left]; simp, by rw [hd]; simp⟩)
  have hs : Gateway.step st s (.loopBarrier c.other c) = some { s with
      loopBarrier := [c.other]
      pc := fun x => if x = c.other then .inLoopBarrier else s.pc x } := by
    simp [Gateway.step, arriveLoopBarrier, hw, hd, pthreadBarrierWait]
  refine ⟨_, .single ⟨_, trivial, hs⟩, ?_⟩
  intro hn
  exact (hn.1 c (by simp [h.left])).1 (by simp)

theorem canWedge_of_process (h : Deserted st s c) (hd : s.pc c.other = .process) :
    CanWedge st s := by
  obtain ⟨-, m, rest, -, hm⟩ : s.processed c.other = s.removed ∧
      ∃ m rest, s.buffer = m :: rest ∧ s.data c.other = some m := by
    simpa [Gathering, hd] using h.round.gathering_of_ended h.left c.other
  have hs := show Gateway.step st s (.process c.other) = some _ by
    simp only [Gateway.step, process, hd, hm]; rfl
  obtain ⟨h', hd'⟩ := h.step hs rfl rfl rfl
  exact (canWedge_of_loopBarrier h' hd').of_step hs

theorem canWedge_of_getData (h : Deserted st s c) (hd : s.pc c.other = .getData) :
    CanWedge st s := by
  obtain ⟨m, rest, hb⟩ := List.exists_cons_of_ne_nil h.nonempty
  have hg : sbufferGetData s.buffer (s.data c.other) = (sbufferSuccess, some m) := by rw [hb]; rfl
  have hr : ¬ sbufferSuccess = sbufferNoData := by decide
  have hs := show Gateway.step st s (.sbufferGetData c.other) = some _ by
    simp only [Gateway.step, getData, hd, h.round.unlocked, and_self, if_true, hg, hr,
      if_false]; rfl
  obtain ⟨h', hd'⟩ := h.step hs rfl rfl rfl
  exact (canWedge_of_process h' hd').of_step hs

/-- Both consumers are out; the connection manager returns and measurements are left. -/
theorem canWedge_of_ended (h : Deserted st s c) (hd : s.pc c.other = .ended) : CanWedge st s := by
  have hall : ∀ x, s.pc x = .ended := c.forall_iff.mpr ⟨h.left, hd⟩
  cases hm : s.connmgr with
  | loopTest =>
    have hs : Gateway.step st s .connmgrTest = some { s with connmgr := .returned } := by
      simp [Gateway.step, connmgrTest, hm, h.fallen]
    exact ⟨_, .single ⟨_, trivial, hs⟩, fun hn => h.nonempty (hn.2 hall (.inl rfl))⟩
  | iteration =>
    have hs : Gateway.step st s .connmgrReturn = some { s with connmgr := .returned } := by
      simp [Gateway.step, connmgrReturn, hm]
    exact ⟨_, .single ⟨_, trivial, hs⟩, fun hn => h.nonempty (hn.2 hall (.inl rfl))⟩
  | returned => exact ⟨s, .refl, fun hn => h.nonempty (hn.2 hall (.inl hm))⟩
  | ended => exact ⟨s, .refl, fun hn => h.nonempty (hn.2 hall (.inr hm))⟩

theorem canWedge_of_loopTest (h : Deserted st s c) (hd : s.pc c.other = .loopTest) :
    CanWedge st s := by
  by_cases hr : s.result c.other = sbufferNoData
  · have hs : Gateway.step st s (.loopTest c.other) =
        some { s with pc := Function.update s.pc c.other .ended } := by
      simp [Gateway.step, loopTest, hd, h.fallen, hr]
    obtain ⟨h', hd'⟩ := h.step hs rfl rfl rfl
    exact (canWedge_of_ended h' hd').of_step hs
  · have hs : Gateway.step st s (.loopTest c.other) =
        some { s with pc := Function.update s.pc c.other .getData } := by
      simp [Gateway.step, loopTest, hd, hr]
    obtain ⟨h', hd'⟩ := h.step hs rfl rfl rfl
    exact (canWedge_of_getData h' hd').of_step hs

theorem canWedge_of_giveUp (h : Deserted st s c) (hd : s.pc c.other = .giveUp) :
    CanWedge st s := by
  have hc : c.other = .storagemgr := h.flag.eq_storagemgr (by rw [hd]; trivial)
  have hs : Gateway.step st s .giveUp = some { s with
      threadResultConnmgr := 0, pc := Function.update s.pc c.other .loopTest } := by
    simp [Gateway.step, giveUp, ← hc, hd, threadEnded]
  obtain ⟨h', hd'⟩ := h.step hs h.fallen.symm rfl rfl
  exact (canWedge_of_loopTest h' hd').of_step hs

/-- The storage manager is still connecting: it gets into one of the two loops, by induction on the
    number of tries it has left. -/
theorem canWedge_of_initConnection : ∀ (left tries : Nat) {s : Gateway α σ}, Deserted st s c →
    tries + left = nrOfTries → s.pc c.other = .initConnection tries → CanWedge st s
  | 0, tries, s, h, ht, hd => by
    have hc : c.other = .storagemgr := h.flag.eq_storagemgr (by rw [hd]; trivial)
    have := (h.flag.tries tries (by rw [← hc, hd])).1
    omega
  | left + 1, tries, s, h, ht, hd => by
    have hc : c.other = .storagemgr := h.flag.eq_storagemgr (by rw [hd]; trivial)
    by_cases hk : st.initConnection tries = true
    · have hs : Gateway.step st s .initConnection = some { s with
          connected := true, pc := Function.update s.pc c.other .loopTest } := by
        simp [Gateway.step, initConnection, ← hc, hd, hk]
      obtain ⟨h', hd'⟩ := h.step hs rfl rfl rfl
      exact (canWedge_of_loopTest h' hd').of_step hs
    · by_cases hlt : tries + 1 < nrOfTries
      · have hs : Gateway.step st s .initConnection = some { s with
            pc := Function.update s.pc c.other (.initConnection (tries + 1)) } := by
          simp [Gateway.step, initConnection, ← hc, hd, hk, hlt]
        obtain ⟨h', hd'⟩ := h.step hs rfl rfl rfl
        exact (canWedge_of_initConnection left (tries + 1) h' (by omega) hd').of_step hs
      · have hs : Gateway.step st s .initConnection = some { s with
            pc := Function.update s.pc c.other .giveUp } := by
          simp [Gateway.step, initConnection, ← hc, hd, hk, hlt]
        obtain ⟨h', hd'⟩ := h.step hs rfl rfl rfl
        exact (canWedge_of_giveUp h' hd').of_step hs

/-- A deserted partner runs into a barrier, or leaves measurements behind. -/
theorem canWedge_of_deserted (h : Deserted st s c) : CanWedge st s := by
  have hg := h.round.gathering_of_ended h.left c.other
  cases hd : s.pc c.other with
  | initConnection n =>
    have hc : c.other = .storagemgr := h.flag.eq_storagemgr (by rw [hd]; trivial)
    have hn := (h.flag.tries n (by rw [← hc, hd])).1
    exact canWedge_of_initConnection (nrOfTries - n) n h (by omega) hd
  | giveUp => exact canWedge_of_giveUp h hd
  | loopTest => exact canWedge_of_loopTest h hd
  | getData => exact canWedge_of_getData h hd
  | process => exact canWedge_of_process h hd
  | loopBarrier => exact canWedge_of_loopBarrier h hd
  | inLoopBarrier => exact ⟨s, .refl, fun hn => (hn.1 c h.left).1 hd⟩
  | ended => exact canWedge_of_ended h hd
  | removing | prepBarrier | inPrepBarrier => simp [Gathering, hd] at hg

end Deserted

/-- A step that violates one of the two conditions leads to a state from which the threads can run
    into a wedge. -/
theorem canWedge_of_violation {a : Action α} (h : Reach (step st) (init acc) s)
    (hG : ¬ (FreshFlagWrite s a ∧ NoLateInsert s a)) (hst : step st s a = some s') :
    CanWedge st s' := by
  have h' : Reach (step st) (init acc) s' := h.tail_step trivial hst
  obtain ⟨c, hc, hb, hf⟩ : ∃ c, s'.Committed c ∧ s'.buffer ≠ [] ∧ s'.threadResultConnmgr = 0 := by
    rcases not_and_or.mp hG with hG | hG
    · exact committed_of_stale_write hG hst
    · exact committed_of_late_insert hG hst
  obtain ⟨t, ht, hl, htb, htf⟩ := exit_of_committed st hf hc
  have hr : Reach (step st) (init acc) t := h'.trans ht
  obtain ⟨u, hu, hn⟩ := canWedge_of_deserted
    ⟨roundInv_of_reach hr, flagInv_of_reach hr, htf, hl, by rwa [htb]⟩
  exact ⟨u, ht.trans hu, hn⟩

/-! ## The two shutdowns -/

/-- With a database, the shutdown is clean in every run in which the connection manager does not
    lower the flag behind a stale emptiness; and a run in which it does so can be continued to a
    state that is not clean. -/
theorem clean_shutdown (st : Setup α σ) (hdb : st.Connects) (acc : (c : Consumer) → σ c) :
    (∀ s, ReachVia (step st) FreshFlagWrite (init acc) s → s.CleanShutdown) ∧
    (∀ s a s', Reach (step st) (init acc) s → ¬ FreshFlagWrite s a → step st s a = some s' →
      ∃ t, Reach (step st) s' t ∧ ¬ t.CleanShutdown) := by
  constructor
  · intro s h
    -- with a database nothing is inserted once the flag is 0
    have hG : ReachVia (step st) (fun s a => FreshFlagWrite s a ∧
        NoLateInsert s a) (init acc) s := by
      induction h with
      | refl => exact .refl
      | tail hrun hlast ih =>
        obtain ⟨a, hw, hs⟩ := hlast
        refine ih.tail_step ⟨hw, ?_⟩ hs
        cases moves_of_step hs with
        | insert m hm =>
          intro h0
          rw [(flagInv_of_reach (ReachVia.reach hrun)).flag hdb h0] at hm
          cases hm
        | _ => trivial
    have hi := shutdownInv_of_reach hG
    constructor
    · intro c hc
      exact ⟨hi.processed_eq hc, hi.buffer_nil hc⟩
    · intro c hc
      exact ⟨(hi.other_free hc).1, (hi.other_free hc).2.1⟩
  · intro s a s' _ hw hst
    obtain ⟨c, hc, hb, hf⟩ := committed_of_stale_write hw hst
    obtain ⟨t, ht, hl, htb, -⟩ := exit_of_committed st hf hc
    refine ⟨t, ht, ?_⟩
    intro hclean
    have hnil := (hclean.1 c hl).2
    exact hb (htb ▸ hnil)

/-- The connection manager inserts one measurement and returns; the consumers process it and
    leave. -/
def cleanRun : List (Action Nat) :=
  [.connmgrTest, .initConnection, .sbufferInsert 7, .connmgrReturn, .connmgrEnd, .loopTest .datamgr,
    .sbufferGetData .datamgr, .loopTest .storagemgr, .sbufferGetData .storagemgr, .process .datamgr,
    .process .storagemgr, .loopBarrier .storagemgr .datamgr, .loopBarrier .datamgr .datamgr,
    .prepBarrier .storagemgr, .remove .datamgr, .prepBarrier .datamgr, .loopTest .datamgr,
    .sbufferGetData .datamgr, .loopTest .datamgr, .loopTest .storagemgr,
    .sbufferGetData .storagemgr, .loopTest .storagemgr]

theorem clean_shutdown_sample :
    ∃ s, runVia (step sampleSetup) FreshFlagWrite (init fun _ => []) cleanRun = some s ∧
      (∀ c, s.pc c = .ended) ∧ s.inserted = [7] ∧ s.CleanShutdown := by
  obtain ⟨s, hs⟩ : ∃ s, runVia (step sampleSetup) FreshFlagWrite (init fun _ => []) cleanRun =
    some s := ⟨_, rfl⟩
  have h := (clean_shutdown sampleSetup ⟨0, by decide, rfl⟩ fun _ => []).1 s (reachVia_of_runVia hs)
  obtain rfl : s = _ := (Option.some.inj hs).symm
  exact ⟨_, rfl, Consumer.datamgr.forall_iff.mpr ⟨rfl, rfl⟩, rfl, h⟩

/-- The data manager reads an empty buffer; a measurement is inserted and the flag lowered before
    its loop test. -/
def staleExit : List (Action Nat) :=
  [.connmgrTest, .initConnection, .loopTest .datamgr, .sbufferGetData .datamgr, .sbufferInsert 7,
    .connmgrReturn, .connmgrEnd, .loopTest .datamgr, .loopTest .storagemgr,
    .sbufferGetData .storagemgr, .process .storagemgr, .loopBarrier .storagemgr .storagemgr]

/-- The data manager is out with nothing processed, the storage manager waits for it forever. -/
theorem clean_shutdown_fails :
    ∃ s, Reach (step sampleSetup) (init fun _ => []) s ∧ s.pc .datamgr = .ended ∧
      s.inserted = [7] ∧ s.processed .datamgr = [] ∧ s.pc .storagemgr = .inLoopBarrier ∧
      ¬ s.CleanShutdown := by
  obtain ⟨s, hs⟩ : ∃ s, run (step sampleSetup) (init fun _ => []) staleExit = some s := ⟨_, rfl⟩
  have hr := reachVia_of_runVia hs
  obtain rfl : s = _ := (Option.some.inj hs).symm
  refine ⟨_, hr, rfl, rfl, rfl, rfl, ?_⟩
  intro hclean
  exact (hclean.2 .datamgr rfl).2 rfl

/-- After three failed connections, no run wedges in which neither flag write nor insertion falls
    behind a consumer's last look at the buffer; and a run in which one does can be continued to a
    wedge. -/
theorem no_wedge_after_giveUp (st : Setup α σ) (acc : (c : Consumer) → σ c) :
    (∀ s, ReachVia (step st) (fun s a => FreshFlagWrite s a ∧ NoLateInsert s a) (init acc) s →
      s.NoWedge) ∧
    (∀ s a s', Reach (step st) (init acc) s → ¬ (FreshFlagWrite s a ∧ NoLateInsert s a) →
      step st s a = some s' → ∃ t, Reach (step st) s' t ∧ ¬ t.NoWedge) := by
  constructor
  · intro s h
    have hi := shutdownInv_of_reach h
    constructor
    · intro c hc
      exact (hi.other_free hc).2
    · intro hall _
      exact hi.buffer_nil (hall .datamgr)
  · intro s a s' h hG hst
    exact canWedge_of_violation h hG hst

def noDatabase : Setup Nat (fun _ => List Nat) :=
  { sampleSetup with initConnection := fun _ => false }

/-- The flag falls while the connection manager is inside an iteration; it inserts a measurement
    after the data manager has left. -/
def lateInsert : List (Action Nat) :=
  [.connmgrTest, .loopTest .datamgr, .sbufferGetData .datamgr, .initConnection, .initConnection,
    .initConnection, .giveUp, .loopTest .datamgr, .sbufferInsert 7, .loopTest .storagemgr,
    .sbufferGetData .storagemgr, .process .storagemgr, .loopBarrier .storagemgr .storagemgr]

/-- `finish_datamgr` waits at `loop_barrier` for a data manager that has left its loop. -/
theorem no_wedge_after_giveUp_fails :
    ¬ noDatabase.Connects ∧ ∃ s, Reach (step noDatabase) (init fun _ => []) s ∧
      s.pc .datamgr = .ended ∧ s.pc .storagemgr = .inLoopBarrier ∧ ¬ s.NoWedge := by
  constructor
  · rintro ⟨k, -, hk⟩
    cases hk
  obtain ⟨s, hs⟩ : ∃ s, run (step noDatabase) (init fun _ => []) lateInsert = some s := ⟨_, rfl⟩
  have hr := reachVia_of_runVia hs
  obtain rfl : s = _ := (Option.some.inj hs).symm
  refine ⟨_, hr, rfl, rfl, ?_⟩
  intro hn
  exact (hn.1 .datamgr rfl).1 rfl

end Gateway

end SensorGateway
