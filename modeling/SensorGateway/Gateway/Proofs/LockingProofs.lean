import SensorGateway.Gateway.Locking
import SensorGateway.Gateway.Proofs.RoundProofs

/-!
# The lock of the buffer is balanced

A run with the lock is a run of the gateway, so the round invariant holds and the serial thread
always finds the head that both consumers have read. The section of `sbuffer_remove` therefore never
ends in the early return, and a thread holds the lock exactly between the acquisition and the
release.
-/

namespace SensorGateway

open Locks Transition

variable {α : Type}

/-- The mode in which the thread should hold the lock. -/
def Critical.mode : Critical → Option Mode
  | .outside => none
  | .locked m | .unlocking m => some m

/-- Before the loop, behind it, or at a barrier. -/
def Pc.AtRest : Pc → Prop
  | .initConnection _ | .giveUp | .loopBarrier | .inLoopBarrier | .inPrepBarrier | .ended => True
  | .loopTest | .getData | .process | .removing | .prepBarrier => False

namespace Locking

variable {st : Setup α fun _ => Unit} {s s' : Locking α}

/-- What one step can do. -/
inductive Moves (st : Setup α fun _ => Unit) (s : Locking α) : Locking α → Prop where
  | acquire (t : Thread) (m : Mode) (lock : RwLock Thread) (hc : s.critical t = .outside)
      (hw : s.wants t = some m) (hl : s.lock.acquire m t = some lock) :
      Moves st s { s with lock := lock, critical := Function.update s.critical t (.locked m) }
  | insert (m : α) (gateway : Gateway α fun _ => Unit) (hc : s.critical .connmgr = .locked .write)
      (hg : s.gateway.step st (.sbufferInsert m) = some gateway) :
      Moves st s { s with
        gateway := gateway, critical := Function.update s.critical .connmgr (.unlocking .write) }
  | getData (c : Consumer) (gateway : Gateway α fun _ => Unit)
      (hc : s.critical (.consumer c) = .locked .read)
      (hg : s.gateway.step st (.sbufferGetData c) = some gateway) :
      Moves st s { s with
        gateway := gateway
        critical := Function.update s.critical (.consumer c) (.unlocking .read) }
  | remove (c : Consumer) (gateway : Gateway α fun _ => Unit)
      (hc : s.critical (.consumer c) = .locked .write)
      (hg : s.gateway.step st (.remove c) = some gateway) :
      Moves st s { s with
        gateway := gateway
        critical := Function.update s.critical (.consumer c)
          (match s.gateway.buffer with
          | [] => .outside
          | _ :: _ => .unlocking .write) }
  | release (t : Thread) (m : Mode) (lock : RwLock Thread) (hc : s.critical t = .unlocking m)
      (hl : s.lock.unlock t = some lock) :
      Moves st s { s with lock := lock, critical := Function.update s.critical t .outside }
  | other (a : Action α) (t : Thread) (gateway : Gateway α fun _ => Unit) (ha : a.thread = some t)
      (hc : s.critical t = .outside) (hg : s.gateway.step st a = some gateway) :
      Moves st s { s with gateway := gateway }

theorem moves_of_step {a : LockAction α} (h : step st s a = some s') : Moves st s s' := by
  cases a with
  | acquire t =>
    simp only [step, Locking.acquire] at h
    split_ifs at h with hc
    obtain ⟨m, hw, h⟩ := Option.bind_eq_some_iff.mp h
    obtain ⟨lock, hl, h⟩ := Option.bind_eq_some_iff.mp h
    obtain rfl := Option.some.inj h
    exact .acquire t m lock hc hw hl
  | insert m =>
    simp only [step, Locking.insert] at h
    split_ifs at h with hc
    obtain ⟨gateway, hg, h⟩ := Option.bind_eq_some_iff.mp h
    obtain rfl := Option.some.inj h
    exact .insert m gateway hc hg
  | getData c =>
    simp only [step, Locking.getData] at h
    split_ifs at h with hc
    obtain ⟨gateway, hg, h⟩ := Option.bind_eq_some_iff.mp h
    obtain rfl := Option.some.inj h
    exact .getData c gateway hc hg
  | remove c =>
    simp only [step, Locking.remove] at h
    split_ifs at h with hc
    obtain ⟨gateway, hg, h⟩ := Option.bind_eq_some_iff.mp h
    obtain rfl := Option.some.inj h
    exact .remove c gateway hc hg
  | release t =>
    simp only [step, Locking.release] at h
    split at h
    · rename_i m hc
      obtain ⟨lock, hl, h⟩ := Option.bind_eq_some_iff.mp h
      obtain rfl := Option.some.inj h
      exact .release t m lock hc hl
    · cases h
  | other a =>
    simp only [step] at h
    obtain ⟨t, ha, h⟩ := Option.bind_eq_some_iff.mp h
    split_ifs at h with hc
    obtain ⟨gateway, hg, h⟩ := Option.bind_eq_some_iff.mp h
    obtain rfl := Option.some.inj h
    exact .other a t gateway ha hc hg

/-- Taking or giving back the lock does not show in the gateway; every other step is one of its
    steps. -/
theorem gateway_reach (h : Reach (step st) init s) :
    Reach (Gateway.step st) (Gateway.init fun _ => ()) s.gateway := by
  refine h.simulates gateway fun s a s' _ hst => ?_
  cases moves_of_step hst with
  | acquire | release => exact .inl rfl
  | insert m gateway hc hg => exact .inr ⟨_, hg⟩
  | getData c gateway hc hg => exact .inr ⟨_, hg⟩
  | remove c gateway hc hg => exact .inr ⟨_, hg⟩
  | other a t gateway ha hc hg => exact .inr ⟨_, hg⟩

theorem roundInv (h : Reach (step st) init s) : s.gateway.RoundInv :=
  Gateway.roundInv_of_reach (gateway_reach h)

/-! ## The lock invariant -/

/-- The lock is held by the threads between acquisition and release, in their modes. -/
structure LockInv (s : Locking α) : Prop where
  nodup : s.lock.readers.Nodup
  holds : ∀ t m, s.lock.Holds m t ↔ (s.critical t).mode = some m
  atRest : ∀ c, (s.gateway.pc c).AtRest → s.critical (.consumer c) = .outside

theorem lockInv_init : (init : Locking α).LockInv where
  nodup := List.nodup_nil
  holds := fun t m => iff_of_false RwLock.not_holds_free (by simp [init, Critical.mode])
  atRest := fun _ _ => rfl

/-- A section leaves the lock alone; the mode of its thread stays the same. -/
theorem LockInv.section_step (h : s.LockInv) {t : Thread} {m : Mode} (hc : s.critical t = .locked m)
    {gateway : Gateway α fun _ => Unit}
    (hpc : ∀ c, (gateway.pc c).AtRest → (s.gateway.pc c).AtRest ∧ .consumer c ≠ t) :
    LockInv { s with
      gateway := gateway, critical := Function.update s.critical t (.unlocking m) } where
  nodup := h.nodup
  holds := by
    intro u n
    rw [h.holds]
    by_cases hu : u = t
    · simp [hu, hc, Critical.mode]
    · simp [hu]
  atRest := by
    intro c hb
    obtain ⟨hold, hne⟩ := hpc c hb
    simpa [hne] using h.atRest c hold

theorem LockInv.acquire (h : s.LockInv) {t : Thread} {m : Mode} {lock : RwLock Thread}
    (hc : s.critical t = .outside) (hw : s.wants t = some m) (hl : s.lock.acquire m t = some lock) :
    LockInv { s with lock := lock, critical := Function.update s.critical t (.locked m) } where
  nodup := by
    refine RwLock.acquire_nodup hl h.nodup ?_
    simp [h.holds, hc, Critical.mode]
  holds := by
    intro u n
    rw [RwLock.acquire_holds hl, h.holds]
    by_cases hu : u = t
    · subst hu
      simp [hc, Critical.mode, eq_comm]
    · simp [hu]
  atRest := by
    intro c hb
    -- a thread that calls for the lock is not at rest
    have hne : Thread.consumer c ≠ t := by
      rintro rfl
      simp only [wants] at hw
      cases hpc : s.gateway.pc c <;> simp [hpc, Pc.AtRest] at hw hb
    simpa [hne] using h.atRest c hb

theorem LockInv.release (h : s.LockInv) {t : Thread} {lock : RwLock Thread}
    (hl : s.lock.unlock t = some lock) :
    LockInv { s with lock := lock, critical := Function.update s.critical t .outside } where
  nodup := (RwLock.unlock_holds hl h.nodup).1
  holds := by
    intro u n
    rw [(RwLock.unlock_holds hl h.nodup).2, h.holds]
    by_cases hu : u = t
    · simp [hu, Critical.mode]
    · simp [hu]
  atRest := by
    intro c hb
    by_cases hne : Thread.consumer c = t
    · simp [hne]
    · simpa [hne] using h.atRest c hb

/-- A step that does not touch the buffer changes the program counter of its own thread, and those
    of threads that a barrier releases. -/
theorem pc_of_other {g g' : Gateway α fun _ => Unit} {a : Action α} {t : Thread} (hr : g.RoundInv)
    (ha : a.thread = some t) (hg : g.step st a = some g') (d : Consumer) :
    g'.pc d = g.pc d ∨ t = .consumer d ∨ (g.pc d).AtRest := by
  cases Gateway.moves_of_step hg with
  | connmgrEnter | connmgrLeave | connmgrNext | connmgrReturn | connmgrEnd => exact .inl rfl
  | insert | readEmpty | readHead | removeNone | removeHead => cases ha
  | connectOk | connectRetry | connectFail | giveUp =>
    obtain rfl := Option.some.inj ha
    cases d with
    | datamgr => exact .inl rfl
    | storagemgr => exact .inr (.inl rfl)
  | testEnter c | testExit c | process c | loopWait c | prepWait c =>
    obtain rfl := Option.some.inj ha
    by_cases hd : d = c
    · exact .inr (.inl (by rw [hd]))
    · exact .inl (Function.update_of_ne hd _ _)
  | loopRelease c x serial hc hw =>
    obtain rfl := Option.some.inj ha
    obtain ⟨rfl, hx⟩ := hr.loopBarrier_other hc hw
    rcases c.eq_or_other d with rfl | rfl
    · exact .inr (.inl rfl)
    · exact .inr (.inr (by rw [hx]; trivial))
  | prepRelease c x hc hw =>
    obtain rfl := Option.some.inj ha
    obtain ⟨rfl, hx⟩ := hr.prepBarrier_other hc hw
    rcases c.eq_or_other d with rfl | rfl
    · exact .inr (.inl rfl)
    · exact .inr (.inr (by rw [hx]; trivial))

theorem lockInv_step {a : LockAction α} (h : s.LockInv) (hr : s.gateway.RoundInv)
    (hst : step st s a = some s') : s'.LockInv := by
  cases moves_of_step hst with
  | acquire t m lock hc hw hl => exact h.acquire hc hw hl
  | insert m gateway hc hg =>
    refine h.section_step hc fun c hb => ?_
    cases Gateway.moves_of_step hg with
    | insert => exact ⟨hb, by simp⟩
  | getData c gateway hc hg =>
    refine h.section_step hc fun d hb => ?_
    cases Gateway.moves_of_step hg with
    | readEmpty | readHead =>
      by_cases hd : d = c
      · simp [hd, Pc.AtRest] at hb
      · exact ⟨by simpa [hd] using hb, by simpa using hd⟩
  | remove c gateway hc hg =>
    cases Gateway.moves_of_step hg with
    | removeNone _ hpc hb =>
      obtain ⟨-, m, rest, hhead, -⟩ := hr.removing hpc
      rw [hb] at hhead
      cases hhead
    | removeHead _ m rest hpc hbuf =>
      rw [hbuf]
      refine h.section_step hc fun d hb => ?_
      by_cases hd : d = c
      · simp [hd, Pc.AtRest] at hb
      · exact ⟨by simpa [hd] using hb, by simpa using hd⟩
  | release t m lock hc hl => exact h.release hl
  | other a t gateway ha hc hg =>
    refine ⟨h.nodup, h.holds, fun c hb => ?_⟩
    rcases pc_of_other hr ha hg c with heq | rfl | hold
    · rw [heq] at hb
      exact h.atRest c hb
    · exact hc
    · exact h.atRest c hold

theorem lockInv_of_reach (h : Reach (step st) init s) : s.LockInv := by
  induction h with
  | refl => exact lockInv_init
  | tail hreach hs ih =>
    obtain ⟨a, -, hst⟩ := hs
    exact lockInv_step ih (roundInv hreach) hst

/-! ## Balance -/

/-- In every state of every interleaving: a consumer outside the sections, as every consumer is at a
    barrier, at its loop test and while it processes, holds the lock in no mode; a thread that is
    about to unlock holds the lock; the serial thread finds a head; and whoever holds the lock is
    inside a section. -/
theorem lock_balance (st : Setup α fun _ => Unit) (s : Locking α) (h : Reach (step st) init s) :
    (∀ c, s.critical (.consumer c) = .outside ∨ (s.gateway.pc c).AtRest →
      ∀ m, ¬ s.lock.Holds m (.consumer c)) ∧
    (∀ t m, s.critical t = .unlocking m → s.lock.Holds m t) ∧
    (∀ c, s.gateway.pc c = .removing → s.gateway.buffer ≠ []) ∧
    ∀ t m, s.lock.Holds m t → s.critical t = .locked m ∨ s.critical t = .unlocking m := by
  have hinv := lockInv_of_reach h
  refine ⟨fun c hc m => ?_, fun t m ht => ?_, fun c hc => ?_, fun t m hm => ?_⟩
  · have hout : s.critical (.consumer c) = .outside := hc.elim id (hinv.atRest c)
    simp [hinv.holds, hout, Critical.mode]
  · simp [hinv.holds, ht, Critical.mode]
  · obtain ⟨-, m, rest, hb, -⟩ := (roundInv h).removing hc
    simp [hb]
  · have hmode := (hinv.holds t m).mp hm
    cases hc : s.critical t with
    | outside => simp [hc, Critical.mode] at hmode
    | locked n =>
      left
      simpa [hc, Critical.mode] using hmode
    | unlocking n =>
      right
      simpa [hc, Critical.mode] using hmode

/-- One measurement, up to the removal by the storage manager, which the barrier elected. -/
def sampleSchedule : List (LockAction Nat) :=
  [.other .connmgrTest, .acquire .connmgr, .insert 7, .release .connmgr,
    .other (.loopTest .datamgr), .other .initConnection, .other (.loopTest .storagemgr),
    .acquire (.consumer .datamgr), .acquire (.consumer .storagemgr), .getData .datamgr,
    .getData .storagemgr, .release (.consumer .storagemgr), .release (.consumer .datamgr),
    .other (.process .datamgr), .other (.process .storagemgr),
    .other (.loopBarrier .datamgr .datamgr), .other (.loopBarrier .storagemgr .storagemgr),
    .acquire (.consumer .storagemgr), .remove .storagemgr]

/-- The storage manager is about to release the write lock and holds it; the data manager in front
    of `prep_barrier` does not. -/
theorem lock_balance_sample : ∃ s,
    run (step ⟨fun _ => true, fun _ _ _ => ()⟩) init sampleSchedule = some s ∧
      s.lock.Holds .write (.consumer .storagemgr) ∧ ¬ s.lock.Holds .write (.consumer .datamgr) := by
  have hmap : (run (step ⟨fun _ => true, fun _ _ _ => ()⟩) init sampleSchedule).map (fun s =>
      (s.critical (.consumer .storagemgr), s.critical (.consumer .datamgr))) =
        some (.unlocking .write, .outside) := by decide
  obtain ⟨s, hs, hcritical⟩ := Option.map_eq_some_iff.mp hmap
  obtain ⟨hstorage, hdata⟩ := Prod.mk.inj hcritical
  obtain ⟨hout, hunlock, -⟩ := lock_balance _ s (reachVia_of_runVia hs)
  exact ⟨s, hs, hunlock (.consumer .storagemgr) .write hstorage, hout .datamgr (.inl hdata) .write⟩

end Locking

end SensorGateway
