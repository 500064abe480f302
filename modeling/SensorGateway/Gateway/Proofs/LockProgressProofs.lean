import SensorGateway.Gateway.Proofs.LockingProofs
import SensorGateway.Gateway.Proofs.ProgressProofs

/-!
# No deadlock on the lock of the buffer

A thread that has taken the lock stands in front of the section it took it for, so it can run the
section, and a thread behind its section can release. When nobody is in a section the lock is free,
and the consumer that can step in the gateway can take it.
-/

namespace SensorGateway

open Locks Transition

variable {α : Type}

/-- Whose step it is. -/
def LockAction.thread : LockAction α → Option Thread
  | .acquire t | .release t => some t
  | .insert _ => some .connmgr
  | .getData c | .remove c => some (.consumer c)
  | .other a => a.thread

namespace Locking

variable {st : Setup α fun _ => Unit} {s s' : Locking α}

/-- A thread that has taken the lock is still where it called for it. -/
def AtSections (s : Locking α) : Prop := ∀ t m, s.critical t = .locked m → s.wants t = some m

theorem wants_consumer_congr {c : Consumer} (hpc : s'.gateway.pc c = s.gateway.pc c) :
    s'.wants (.consumer c) = s.wants (.consumer c) := by
  unfold wants
  simp only [hpc]

theorem wants_connmgr_congr (hm : s'.gateway.connmgr = s.gateway.connmgr) :
    s'.wants .connmgr = s.wants .connmgr := by
  unfold wants
  simp only [hm]

/-- A section is left by its own thread, and moves no other one. -/
theorem AtSections.section_step (h : s.AtSections) {t : Thread} {p : Critical}
    {gateway : Gateway α fun _ => Unit} (hp : ∀ m, p ≠ .locked m)
    (hm : t ≠ .connmgr → gateway.connmgr = s.gateway.connmgr)
    (hpc : ∀ c, .consumer c ≠ t → gateway.pc c = s.gateway.pc c) :
    AtSections { s with gateway := gateway, critical := Function.update s.critical t p } := by
  intro u m hu
  dsimp only at hu
  by_cases hut : u = t
  · subst hut
    rw [Function.update_self] at hu
    exact absurd hu (hp m)
  · rw [Function.update_of_ne hut] at hu
    cases u with
    | connmgr => exact (wants_connmgr_congr (hm (Ne.symm hut))).trans (h _ m hu)
    | consumer c => exact (wants_consumer_congr (hpc c hut)).trans (h _ m hu)

/-- The connection manager is moved by its own steps only. -/
theorem connmgr_of_other {g g' : Gateway α fun _ => Unit} {a : Action α} {t : Thread}
    (ha : a.thread = some t) (hg : g.step st a = some g') (ht : t ≠ .connmgr) :
    g'.connmgr = g.connmgr := by
  cases Gateway.moves_of_step hg with
  | connmgrEnter | connmgrLeave | connmgrNext | connmgrReturn | connmgrEnd =>
    exact absurd (Option.some.inj ha).symm ht
  | _ => rfl

theorem atSections_step {a : LockAction α} (h : s.AtSections) (hl : s.LockInv)
    (hr : s.gateway.RoundInv) (hst : step st s a = some s') : s'.AtSections := by
  cases moves_of_step hst with
  | acquire t m lock hc hw =>
    intro u n hu
    dsimp only at hu
    by_cases hut : u = t
    · subst hut
      rw [Function.update_self] at hu
      obtain rfl : m = n := by simpa using hu
      exact hw
    · rw [Function.update_of_ne hut] at hu
      exact h u n hu
  | insert m gateway hc hg =>
    refine h.section_step nofun (fun hne => absurd rfl hne) fun c _ => ?_
    cases Gateway.moves_of_step hg with
    | insert => rfl
  | getData c gateway hc hg =>
    refine h.section_step nofun (fun _ => ?_) fun d hd => ?_
    · cases Gateway.moves_of_step hg <;> rfl
    · have hne : d ≠ c := by
        rintro rfl
        exact hd rfl
      cases Gateway.moves_of_step hg <;> exact Function.update_of_ne hne _ _
  | remove c gateway hc hg =>
    refine h.section_step ?_ (fun _ => ?_) fun d hd => ?_
    · intro m
      split <;> simp
    · cases Gateway.moves_of_step hg <;> rfl
    · have hne : d ≠ c := by
        rintro rfl
        exact hd rfl
      cases Gateway.moves_of_step hg <;> exact Function.update_of_ne hne _ _
  | release t m lock hc =>
    intro u n hu
    dsimp only at hu
    by_cases hut : u = t
    · subst hut
      simp at hu
    · rw [Function.update_of_ne hut] at hu
      exact h u n hu
  | other a t gateway ha hc hg =>
    intro u m hu
    have hut : u ≠ t := by
      rintro rfl
      rw [hc] at hu
      cases hu
    cases u with
    | connmgr =>
      exact (wants_connmgr_congr (connmgr_of_other ha hg (Ne.symm hut))).trans (h _ m hu)
    | consumer c =>
      rcases pc_of_other hr ha hg c with heq | rfl | hrest
      · exact (wants_consumer_congr heq).trans (h _ m hu)
      · exact absurd rfl hut
      · rw [hl.atRest c hrest] at hu
        cases hu

theorem atSections_of_reach (h : Reach (step st) init s) : s.AtSections := by
  induction h with
  | refl => exact fun t m ht => by cases ht
  | tail hreach hs ih =>
    obtain ⟨a, -, hst⟩ := hs
    exact atSections_step ih (lockInv_of_reach hreach) (roundInv hreach) hst

/-! ## Who can step -/

/-- A thread inside a section can run it, or release the lock behind it. -/
theorem exists_step_of_critical [Inhabited α] (h : s.AtSections) (hl : s.LockInv)
    (hr : s.gateway.RoundInv) {t : Thread} (ht : s.critical t ≠ .outside) :
    ∃ a s', a.thread = some t ∧ step st s a = some s' := by
  cases hc : s.critical t with
  | outside => exact absurd hc ht
  | unlocking m =>
    have hholds : s.lock.Holds m t := (hl.holds t m).mpr (by rw [hc]; rfl)
    obtain ⟨lock, hlock⟩ : ∃ lock, s.lock.unlock t = some lock := by
      unfold RwLock.unlock
      cases m with
      | read =>
        have hmem : t ∈ s.lock.readers := hholds
        split_ifs <;> exact ⟨_, rfl⟩
      | write =>
        have hwriter : s.lock.writer = some t := hholds
        rw [if_pos hwriter]
        exact ⟨_, rfl⟩
    obtain ⟨s', hs⟩ : ∃ s', step st s (.release t) = some s' := by
      simp only [step, Locking.release, hc, hlock]
      exact ⟨_, rfl⟩
    exact ⟨_, s', rfl, hs⟩
  | locked m =>
    have hwants := h t m hc
    cases t with
    | connmgr =>
      simp only [wants, Option.ite_none_right_eq_some, Option.some.injEq] at hwants
      obtain ⟨hiter, rfl⟩ := hwants
      obtain ⟨s', hs⟩ : ∃ s', step st s (.insert default) = some s' := by
        simp only [step, Locking.insert, if_pos hc, Gateway.insert,
          if_pos (And.intro hiter hr.unlocked)]
        exact ⟨_, rfl⟩
      exact ⟨_, s', rfl, hs⟩
    | consumer c =>
      cases hpc : s.gateway.pc c with
      | getData =>
        obtain rfl : Mode.read = m := by simpa [wants, hpc] using hwants
        obtain ⟨s', hs⟩ : ∃ s', step st s (.getData c) = some s' := by
          simp only [step, Locking.getData, if_pos hc, Gateway.getData,
            if_pos (And.intro hpc hr.unlocked)]
          exact ⟨_, rfl⟩
        exact ⟨_, s', rfl, hs⟩
      | removing =>
        obtain rfl : Mode.write = m := by simpa [wants, hpc] using hwants
        obtain ⟨-, head, rest, hb, -⟩ := hr.removing hpc
        obtain ⟨s', hs⟩ : ∃ s', step st s (.remove c) = some s' := by
          simp only [step, Locking.remove, if_pos hc, Gateway.remove,
            if_pos (And.intro hpc hr.unlocked), hb]
          exact ⟨_, rfl⟩
        exact ⟨_, s', rfl, hs⟩
      | _ => simp [wants, hpc] at hwants

/-- A lock that nobody holds can be taken. -/
theorem exists_acquire (hl : s.LockInv) (hout : ∀ t, s.critical t = .outside) (m : Mode)
    (t : Thread) : ∃ lock, s.lock.acquire m t = some lock := by
  have hnone : ∀ u n, ¬ s.lock.Holds n u := by
    intro u n
    rw [hl.holds, hout]
    exact nofun
  have hwriter : s.lock.writer = none := by
    by_contra hne
    obtain ⟨u, hu⟩ := Option.ne_none_iff_exists'.mp hne
    exact hnone u .write hu
  have hreaders : s.lock.readers = [] := by
    apply List.eq_nil_iff_forall_not_mem.mpr
    intro u hu
    exact hnone u .read hu
  unfold RwLock.acquire
  cases m with
  | read => simp [hwriter]
  | write => simp [hwriter, hreaders]

/-- While the flag is up no interleaving of lock acquisitions, sections, releases and barrier
    arrivals is stuck: a consumer can step, or the connection manager is in the middle of an
    insertion and can step. -/
theorem no_deadlock [Inhabited α] (st : Setup α fun _ => Unit) (s : Locking α)
    (h : Reach (step st) init s) (hflag : s.gateway.threadResultConnmgr ≠ 0) :
    ∃ a s', step st s a = some s' ∧
      ((∃ c, a.thread = some (.consumer c)) ∨
        a.thread = some .connmgr ∧ s.critical .connmgr ≠ .outside) := by
  have hl := lockInv_of_reach h
  have hr := roundInv h
  by_cases hout : ∀ t, s.critical t = .outside
  · -- nobody is in a section: the consumer that can step in the gateway takes the lock or steps
    obtain ⟨a, gateway, ha, hg⟩ := Gateway.exists_step_of_flag st hr
      (Gateway.flagInv_of_reach (gateway_reach h)) hflag
    have hacquire : ∀ {c : Consumer} {m : Mode}, s.wants (.consumer c) = some m →
        ∃ a s', step st s a = some s' ∧ ∃ c, a.thread = some (.consumer c) := by
      intro c m hw
      obtain ⟨lock, hlock⟩ := exists_acquire hl hout m (.consumer c)
      obtain ⟨s', hs⟩ : ∃ s', step st s (.acquire (.consumer c)) = some s' := by
        simp only [step, Locking.acquire, if_pos (hout _), hw, Option.bind_eq_bind,
          Option.bind_some,
          hlock]
        exact ⟨_, rfl⟩
      exact ⟨_, s', hs, c, rfl⟩
    have hother : ∀ {c : Consumer}, a.thread = some (.consumer c) →
        ∃ a s', step st s a = some s' ∧ ∃ c, a.thread = some (.consumer c) := by
      intro c ht
      refine ⟨.other a, { s with gateway := gateway }, ?_, c, ht⟩
      simp only [step, ht, Option.bind_eq_bind, Option.bind_some, if_pos (hout _), hg]
    have hstep : ∃ a s', step st s a = some s' ∧ ∃ c, LockAction.thread a = some (.consumer c) := by
      cases Gateway.moves_of_step hg with
      | connmgrEnter | connmgrLeave | connmgrNext | connmgrReturn | connmgrEnd | insert => cases ha
      | connectOk | connectRetry | connectFail | giveUp | testEnter | testExit | process | loopWait
      | loopRelease | prepWait | prepRelease => exact hother rfl
      | readEmpty c hpc | readHead c m rest hpc =>
        exact hacquire (c := c) (m := .read) (by simp [wants, hpc])
      | removeNone c hpc | removeHead c m rest hpc =>
        exact hacquire (c := c) (m := .write) (by simp [wants, hpc])
    obtain ⟨b, s', hs, hc⟩ := hstep
    exact ⟨b, s', hs, .inl hc⟩
  · push Not at hout
    obtain ⟨t, ht⟩ := hout
    obtain ⟨a, s', ha, hs⟩ : ∃ a s', LockAction.thread a = some t ∧ step st s a = some s' :=
      exists_step_of_critical (atSections_of_reach h) hl hr ht
    refine ⟨a, s', hs, ?_⟩
    cases t with
    | connmgr => exact .inr ⟨ha, ht⟩
    | consumer c => exact .inl ⟨c, ha⟩

/-- The storage manager is about to release the write lock, the data manager in front of
    `prep_barrier`. -/
theorem no_deadlock_sample : ∃ s,
    run (step ⟨fun _ => true, fun _ _ _ => ()⟩) init sampleSchedule = some s ∧
      ∃ a s', step ⟨fun _ => true, fun _ _ _ => ()⟩ s a = some s' ∧
        ((∃ c, a.thread = some (.consumer c)) ∨
          a.thread = some .connmgr ∧ s.critical .connmgr ≠ .outside) := by
  have hmap : (run (step ⟨fun _ => true, fun _ _ _ => ()⟩) init sampleSchedule).map (fun s =>
      s.gateway.threadResultConnmgr) = some 1 := by decide
  obtain ⟨s, hs, hflag⟩ := Option.map_eq_some_iff.mp hmap
  exact ⟨s, hs, no_deadlock _ s (reachVia_of_runVia hs) (by rw [hflag]; decide)⟩

end Locking

end SensorGateway
