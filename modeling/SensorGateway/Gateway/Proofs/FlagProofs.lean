import SensorGateway.Gateway.Proofs.RoundProofs

/-!
# The shared flag and the results of the consumers

What the program counters say about `thread_result_connmgr`, about the number of connection
attempts, and about the result variable that the loop test reads.
-/

namespace SensorGateway

variable {α : Type} {σ : Consumer → Type}

/-- Before the loop of the storage manager. -/
def Pc.Starting : Pc → Prop
  | .initConnection _ | .giveUp => True
  | _ => False

/-- Between a read that returned a measurement and the next loop test. -/
def Pc.Holding : Pc → Prop
  | .process | .loopBarrier | .inLoopBarrier | .removing | .prepBarrier | .inPrepBarrier => True
  | _ => False

/-- One of the attempts to connect to the database succeeds. -/
def Setup.Connects (st : Setup α σ) : Prop := ∃ k < nrOfTries, st.initConnection k = true

namespace Gateway

variable {st : Setup α σ} {s s' : Gateway α σ}

structure FlagInv (st : Setup α σ) (s : Gateway α σ) : Prop where
  tries : ∀ n, s.pc .storagemgr = .initConnection n →
    n < nrOfTries ∧ ∀ k < n, st.initConnection k = false
  gaveUp : s.pc .storagemgr = .giveUp → ¬ st.Connects
  datamgr : ¬ (s.pc .datamgr).Starting
  fresh : ∀ c, (s.pc c).Starting ∨ (s.pc c).Holding → s.result c ≠ sbufferNoData
  ended : ∀ c, s.pc c = .ended → s.threadResultConnmgr = 0
  flag : st.Connects → s.threadResultConnmgr = 0 → s.connmgr = .ended

theorem flagInv_init (acc : (c : Consumer) → σ c) : FlagInv st (init acc : Gateway α σ) where
  tries := fun n h => by
    obtain rfl : 0 = n := by simpa [init] using h
    exact ⟨by decide, fun k hk => absurd hk (Nat.not_lt_zero k)⟩
  gaveUp := fun h => by simp [init] at h
  datamgr := by simp [init, Pc.Starting]
  fresh := fun c _ => by simp [init, sbufferNoData]
  ended := fun c h => by cases c <;> simp [init] at h
  flag := fun _ h => by simp [init, threadRunning] at h

/-- Only the storage manager connects to the database. -/
theorem FlagInv.eq_storagemgr (h : FlagInv st s) {c : Consumer} (hc : (s.pc c).Starting) :
    c = .storagemgr := by
  cases c with
  | datamgr => exact absurd hc h.datamgr
  | storagemgr => rfl

/-- A step inside the consumer loops: a consumer either stands still, or comes to a place whose
    demands on its result and on the flag are met. -/
theorem FlagInv.loop_step (h : FlagInv st s) (hf : s'.threadResultConnmgr = s.threadResultConnmgr)
    (hm : s'.connmgr = s.connmgr)
    (hpc : ∀ d, (s'.pc d = s.pc d ∧ s'.result d = s.result d) ∨
      (¬ (s'.pc d).Starting ∧ ((s'.pc d).Holding → s'.result d ≠ sbufferNoData) ∧
        (s'.pc d = .ended → s.threadResultConnmgr = 0))) : FlagInv st s' where
  tries := fun n hn => by
    rcases hpc .storagemgr with ⟨he, -⟩ | ⟨he, -⟩
    · exact h.tries n (he ▸ hn)
    · rw [hn] at he
      exact absurd trivial he
  gaveUp := fun hg => by
    rcases hpc .storagemgr with ⟨he, -⟩ | ⟨he, -⟩
    · exact h.gaveUp (he ▸ hg)
    · rw [hg] at he
      exact absurd trivial he
  datamgr := by
    rcases hpc .datamgr with ⟨he, -⟩ | ⟨he, -⟩
    · rw [he]; exact h.datamgr
    · exact he
  fresh := fun c hc => by
    rcases hpc c with ⟨he, hr⟩ | ⟨he, hr, -⟩
    · rw [hr]; exact h.fresh c (he ▸ hc)
    · exact hr (hc.resolve_left he)
  ended := fun c hc => by
    rcases hpc c with ⟨he, -⟩ | ⟨-, -, he⟩
    · rw [hf]; exact h.ended c (he ▸ hc)
    · rw [hf]; exact he hc
  flag := fun hc h0 => by rw [hm]; exact h.flag hc (hf ▸ h0)

/-- A step of the consumer `c` alone. -/
theorem FlagInv.update (h : FlagInv st s) {c : Consumer} {p : Pc}
    (hf : s'.threadResultConnmgr = s.threadResultConnmgr) (hm : s'.connmgr = s.connmgr)
    (hpc : s'.pc = Function.update s.pc c p) (hr : s'.result c.other = s.result c.other)
    (hp : ¬ p.Starting) (hres : p.Holding → s'.result c ≠ sbufferNoData)
    (hend : p = .ended → s.threadResultConnmgr = 0) : FlagInv st s' := by
  refine h.loop_step hf hm (c.forall_iff.mpr ⟨.inr ?_, .inl ?_⟩)
  · rw [hpc, Function.update_self]
    exact ⟨hp, hres, hend⟩
  · rw [hpc]
    exact ⟨by simp, hr⟩

/-- A step of the storage manager before its loop. -/
theorem FlagInv.start_step (h : FlagInv st s) {p : Pc} (hs : (s.pc .storagemgr).Starting)
    (hm : s'.connmgr = s.connmgr) (hpc : s'.pc = Function.update s.pc .storagemgr p)
    (hr : s'.result = s.result)
    (htries : ∀ n, p = .initConnection n → n < nrOfTries ∧ ∀ k < n, st.initConnection k = false)
    (hgave : p = .giveUp → ¬ st.Connects) (hp : p ≠ .ended)
    (hf : s'.threadResultConnmgr = s.threadResultConnmgr ∨
      (s'.threadResultConnmgr = 0 ∧ ¬ st.Connects)) : FlagInv st s' where
  tries := by rw [hpc, Function.update_self]; exact htries
  gaveUp := by rw [hpc, Function.update_self]; exact hgave
  datamgr := by rw [hpc]; exact h.datamgr
  fresh := fun c hc => by
    rw [hr]
    cases c with
    | datamgr => rw [hpc] at hc; exact h.fresh .datamgr hc
    | storagemgr => exact h.fresh .storagemgr (.inl hs)
  ended := fun c hc => by
    rw [hpc] at hc
    cases c with
    | datamgr =>
      have h0 := h.ended .datamgr hc
      rcases hf with hf | ⟨hf, -⟩
      · rw [hf, h0]
      · exact hf
    | storagemgr => exact absurd (by simpa using hc) hp
  flag := fun hc h0 => by
    rw [hm]
    rcases hf with hf | ⟨-, hf⟩
    · exact h.flag hc (hf ▸ h0)
    · exact absurd hc hf

/-- A step that releases both consumers from a barrier. -/
theorem FlagInv.release (h : FlagInv st s) {c : Consumer}
    (hf : s'.threadResultConnmgr = s.threadResultConnmgr) (hm : s'.connmgr = s.connmgr)
    (hr : s'.result = s.result) (hc : (s.pc c).Holding) (ho : (s.pc c.other).Holding)
    (hp : ∀ d, ¬ (s'.pc d).Starting ∧ s'.pc d ≠ .ended) : FlagInv st s' := by
  have hfresh : ∀ d, s.result d ≠ sbufferNoData :=
    c.forall_iff.mpr ⟨h.fresh c (.inr hc), h.fresh c.other (.inr ho)⟩
  refine h.loop_step hf hm fun d => .inr ⟨(hp d).1, fun _ => by rw [hr]; exact hfresh d, ?_⟩
  exact fun he => absurd he (hp d).2

theorem flagInv_step {a : Action α} (hi : s.RoundInv) (h : FlagInv st s)
    (hst : step st s a = some s') : FlagInv st s' := by
  cases moves_of_step hst with
  | connmgrEnter hm hf =>
    exact ⟨h.tries, h.gaveUp, h.datamgr, h.fresh, h.ended, fun _ h0 => absurd h0 hf⟩
  | connmgrLeave hm hf =>
    refine ⟨h.tries, h.gaveUp, h.datamgr, h.fresh, h.ended, ?_⟩
    intro hc h0
    simp [h.flag hc h0] at hm
  | connmgrNext hm | connmgrReturn hm =>
    refine ⟨h.tries, h.gaveUp, h.datamgr, h.fresh, h.ended, ?_⟩
    intro hc h0
    simp [h.flag hc h0] at hm
  | connmgrEnd hm => exact ⟨h.tries, h.gaveUp, h.datamgr, h.fresh, fun _ _ => rfl, fun _ _ => rfl⟩
  | insert m => exact ⟨h.tries, h.gaveUp, h.datamgr, h.fresh, h.ended, h.flag⟩
  | connectOk tries hc =>
    exact h.start_step (by rw [hc]; trivial) rfl rfl rfl nofun nofun nofun (.inl rfl)
  | connectRetry tries hc hk ht =>
    refine h.start_step (by rw [hc]; trivial) rfl rfl rfl (fun n hn => ?_) nofun nofun (.inl rfl)
    obtain rfl : tries + 1 = n := by simpa using hn
    refine ⟨ht, ?_⟩
    intro k hlt
    rcases Nat.lt_succ_iff_lt_or_eq.mp hlt with hlt | rfl
    · exact (h.tries tries hc).2 k hlt
    · exact hk
  | connectFail tries hc hk ht =>
    refine h.start_step (by rw [hc]; trivial) rfl rfl rfl nofun (fun _ => ?_) nofun (.inl rfl)
    rintro ⟨k, hlt, hok⟩
    rcases Nat.lt_or_eq_of_le (show k ≤ tries by omega) with hk' | rfl
    · rw [(h.tries tries hc).2 k hk'] at hok
      cases hok
    · rw [hk] at hok
      cases hok
  | giveUp hc =>
    exact h.start_step (by rw [hc]; trivial) rfl rfl rfl nofun nofun nofun
      (.inr ⟨rfl, h.gaveUp hc⟩)
  | testEnter c hc hf => exact h.update rfl rfl rfl rfl id False.elim nofun
  | testExit c hc hf => exact h.update rfl rfl rfl rfl id False.elim fun _ => hf
  | readEmpty c hc => exact h.update (c := c) rfl rfl rfl (by simp) id False.elim nofun
  | readHead c m rest hc =>
    exact h.update (c := c) rfl rfl rfl (by simp) id
      (fun _ => by simp [sbufferSuccess, sbufferNoData])
      nofun
  | process c m hc | loopWait c serial hc | removeNone c hc | removeHead c m rest hc
  | prepWait c hc =>
    exact h.update (c := c) rfl rfl rfl rfl id (fun _ => h.fresh c (by rw [hc]; exact .inr trivial))
      nofun
  | loopRelease c d serial hc hw =>
    obtain ⟨rfl, hd⟩ := hi.loopBarrier_other hc hw
    refine h.release (c := c) rfl rfl rfl (by rw [hc]; trivial) (by rw [hd]; trivial) ?_
    intro x
    simp only [c.eq_or_other x, if_true]
    split_ifs <;> simp [Pc.Starting]
  | prepRelease c d hc hw =>
    obtain ⟨rfl, hd⟩ := hi.prepBarrier_other hc hw
    refine h.release (c := c) rfl rfl rfl (by rw [hc]; trivial) (by rw [hd]; trivial) ?_
    intro x
    simp [c.eq_or_other x, Pc.Starting]

/-- Both invariants hold in every state that a run reaches. -/
theorem flagInv_of_reach {acc : (c : Consumer) → σ c}
    (h : Transition.Reach (step st) (init acc) s) : FlagInv st s := by
  have := h.invariant (P := fun s => s.RoundInv ∧ FlagInv st s)
    ⟨roundInv_init acc, flagInv_init acc⟩
    fun _ _ _ hi _ hs => ⟨roundInv_step hi.1 hs, flagInv_step hi.1 hi.2 hs⟩
  exact this.2

end Gateway

end SensorGateway
