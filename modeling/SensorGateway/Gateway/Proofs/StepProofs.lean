import Mathlib.Tactic
import SensorGateway.Gateway.Threads

/-!
# What one step of the gateway can do

`Moves` lists the steps branch by branch, each with its guard and the state it leads to;
`moves_of_step` is the inversion of `Gateway.step`. All invariants of the threads are proved by
cases on `Moves`.
-/

namespace SensorGateway

variable {α : Type} {σ : Consumer → Type}

/-! ## The two consumers -/

@[simp] theorem Consumer.other_ne (c : Consumer) : c.other ≠ c := by cases c <;> simp [other]

@[simp] theorem Consumer.ne_other (c : Consumer) : c ≠ c.other := (other_ne c).symm

theorem Consumer.eq_or_other (c d : Consumer) : d = c ∨ d = c.other := by
  cases c <;> cases d <;> simp [other]

/-- What holds for `c` and for the other consumer holds for both. -/
theorem Consumer.forall_iff (c : Consumer) {P : Consumer → Prop} :
    (∀ d, P d) ↔ P c ∧ P c.other := by
  refine ⟨fun h => ⟨h c, h c.other⟩, fun ⟨h1, h2⟩ d => ?_⟩
  rcases c.eq_or_other d with rfl | rfl
  · exact h1
  · exact h2

/-! ## The barriers -/

/-- The second arrival of a round releases both threads. -/
theorem pthreadBarrierWait_one (d c : Consumer) : pthreadBarrierWait [d] c = ([], [c, d]) := rfl

/-- Any other arrival waits. -/
theorem pthreadBarrierWait_of_ne {w : List Consumer} (h : w.length ≠ 1) (c : Consumer) :
    pthreadBarrierWait w c = (c :: w, []) := by
  have : ¬ w.length + 1 = 2 := by omega
  simp [pthreadBarrierWait, this]

namespace Gateway

/-- The steps of the threads, one constructor for each branch of the code. -/
inductive Moves (st : Setup α σ) : Gateway α σ → Action α → Gateway α σ → Prop where
  | connmgrEnter {s} (h : s.connmgr = .loopTest) (hf : s.threadResultConnmgr ≠ 0) :
      Moves st s .connmgrTest { s with connmgr := .iteration }
  | connmgrLeave {s} (h : s.connmgr = .loopTest) (hf : s.threadResultConnmgr = 0) :
      Moves st s .connmgrTest { s with connmgr := .returned }
  | insert {s} (m : α) (h : s.connmgr = .iteration) (hl : s.wrlocked = none) :
      Moves st s (.sbufferInsert m)
        { s with buffer := s.buffer ++ [m], inserted := s.inserted ++ [m] }
  | connmgrNext {s} (h : s.connmgr = .iteration) :
      Moves st s .connmgrNext { s with connmgr := .loopTest }
  | connmgrReturn {s} (h : s.connmgr = .iteration) :
      Moves st s .connmgrReturn { s with connmgr := .returned }
  | connmgrEnd {s} (h : s.connmgr = .returned) :
      Moves st s .connmgrEnd { s with connmgr := .ended, threadResultConnmgr := 0 }
  | connectOk {s} (tries : Nat) (h : s.pc .storagemgr = .initConnection tries)
      (hc : st.initConnection tries = true) :
      Moves st s .initConnection
        { s with connected := true, pc := Function.update s.pc .storagemgr .loopTest }
  | connectRetry {s} (tries : Nat) (h : s.pc .storagemgr = .initConnection tries)
      (hc : st.initConnection tries = false) (ht : tries + 1 < nrOfTries) :
      Moves st s .initConnection
        { s with pc := Function.update s.pc .storagemgr (.initConnection (tries + 1)) }
  | connectFail {s} (tries : Nat) (h : s.pc .storagemgr = .initConnection tries)
      (hc : st.initConnection tries = false) (ht : ¬ tries + 1 < nrOfTries) :
      Moves st s .initConnection { s with pc := Function.update s.pc .storagemgr .giveUp }
  | giveUp {s} (h : s.pc .storagemgr = .giveUp) :
      Moves st s .giveUp
        { s with threadResultConnmgr := 0, pc := Function.update s.pc .storagemgr .loopTest }
  | testEnter {s} (c : Consumer) (h : s.pc c = .loopTest)
      (hf : s.threadResultConnmgr ≠ 0 ∨ s.result c ≠ sbufferNoData) :
      Moves st s (.loopTest c) { s with pc := Function.update s.pc c .getData }
  | testExit {s} (c : Consumer) (h : s.pc c = .loopTest) (hf : s.threadResultConnmgr = 0)
      (hr : s.result c = sbufferNoData) :
      Moves st s (.loopTest c) { s with pc := Function.update s.pc c .ended }
  | readEmpty {s} (c : Consumer) (h : s.pc c = .getData) (hb : s.buffer = []) :
      Moves st s (.sbufferGetData c)
        { s with
          result := Function.update s.result c sbufferNoData
          pc := Function.update s.pc c .loopTest }
  | readHead {s} (c : Consumer) (m : α) (rest : List α) (h : s.pc c = .getData)
      (hb : s.buffer = m :: rest) :
      Moves st s (.sbufferGetData c)
        { s with
          result := Function.update s.result c sbufferSuccess
          data := Function.update s.data c (some m)
          pc := Function.update s.pc c .process }
  | process {s} (c : Consumer) (m : α) (h : s.pc c = .process) (hd : s.data c = some m) :
      Moves st s (.process c)
        { s with
          acc := if c = .storagemgr ∧ ¬ s.connected then s.acc
            else Function.update s.acc c (st.process c m (s.acc c))
          processed := Function.update s.processed c (s.processed c ++ [m])
          pc := Function.update s.pc c .loopBarrier }
  | loopWait {s} (c serial : Consumer) (h : s.pc c = .loopBarrier)
      (hw : s.loopBarrier.length ≠ 1) :
      Moves st s (.loopBarrier c serial)
        { s with
          loopBarrier := c :: s.loopBarrier
          pc := Function.update s.pc c .inLoopBarrier }
  | loopRelease {s} (c d serial : Consumer) (h : s.pc c = .loopBarrier)
      (hw : s.loopBarrier = [d]) (hs : serial = c ∨ serial = d) :
      Moves st s (.loopBarrier c serial)
        { s with
          loopBarrier := []
          pc := fun x => if x = c ∨ x = d then (if x = serial then .removing else .prepBarrier)
            else s.pc x }
  | removeNone {s} (c : Consumer) (h : s.pc c = .removing) (hb : s.buffer = []) :
      Moves st s (.remove c)
        { s with wrlocked := some c, pc := Function.update s.pc c .prepBarrier }
  | removeHead {s} (c : Consumer) (m : α) (rest : List α) (h : s.pc c = .removing)
      (hb : s.buffer = m :: rest) :
      Moves st s (.remove c)
        { s with
          buffer := rest
          data := Function.update s.data c (some m)
          removed := s.removed ++ [m]
          pc := Function.update s.pc c .prepBarrier }
  | prepWait {s} (c : Consumer) (h : s.pc c = .prepBarrier) (hw : s.prepBarrier.length ≠ 1) :
      Moves st s (.prepBarrier c)
        { s with
          prepBarrier := c :: s.prepBarrier
          pc := Function.update s.pc c .inPrepBarrier }
  | prepRelease {s} (c d : Consumer) (h : s.pc c = .prepBarrier) (hw : s.prepBarrier = [d]) :
      Moves st s (.prepBarrier c)
        { s with
          prepBarrier := []
          pc := fun x => if x = c ∨ x = d then .loopTest else s.pc x }

variable {st : Setup α σ} {s s' : Gateway α σ}

/-! ## Inversion, one lemma for each function of the model -/

theorem moves_connmgrTest (h : s.connmgrTest = some s') : Moves st s .connmgrTest s' := by
  unfold connmgrTest at h
  split_ifs at h with h1 h2 <;> simp only [Option.some.injEq] at h <;> subst h
  · exact .connmgrEnter h1 h2
  · exact .connmgrLeave h1 (not_not.mp h2)

theorem moves_initConnection (h : s.initConnection st = some s') :
    Moves st s .initConnection s' := by
  unfold initConnection at h
  split at h
  · rename_i tries hp
    split_ifs at h with h1 h2 <;> simp only [Option.some.injEq] at h <;> subst h
    · exact .connectOk tries hp h1
    · exact .connectRetry tries hp (by simpa using h1) h2
    · exact .connectFail tries hp (by simpa using h1) h2
  · cases h

theorem moves_loopTest {c : Consumer} (h : s.loopTest c = some s') :
    Moves st s (.loopTest c) s' := by
  unfold loopTest at h
  split_ifs at h with h1 h2 <;> simp only [Option.some.injEq] at h <;> subst h
  · exact .testEnter c h1 h2
  · push Not at h2
    exact .testExit c h1 h2.1 h2.2

theorem moves_getData {c : Consumer} (h : s.getData c = some s') :
    Moves st s (.sbufferGetData c) s' := by
  unfold getData at h
  split_ifs at h with h1
  simp only [Option.some.injEq] at h
  subst h
  by_cases hb : s.buffer = []
  · have hg : sbufferGetData s.buffer (s.data c) = (sbufferNoData, s.data c) := by rw [hb]; rfl
    have hd : Function.update s.data c (s.data c) = s.data := Function.update_eq_self c s.data
    simp only [hg, hd, if_true]
    exact .readEmpty c h1.1 hb
  · obtain ⟨m, rest, hb⟩ := List.exists_cons_of_ne_nil hb
    have hg : sbufferGetData s.buffer (s.data c) = (sbufferSuccess, some m) := by rw [hb]; rfl
    have hr : ¬ sbufferSuccess = sbufferNoData := by decide
    simp only [hg, hr, if_false]
    exact .readHead c m rest h1.1 hb

theorem moves_process {c : Consumer} (h : s.process st c = some s') :
    Moves st s (.process c) s' := by
  unfold process at h
  split at h
  · rename_i m hp hd
    simp only [Option.some.injEq] at h
    subst h
    exact .process c m hp hd
  · cases h

theorem moves_arriveLoopBarrier {c serial : Consumer} (h : s.arriveLoopBarrier c serial = some s') :
    Moves st s (.loopBarrier c serial) s' := by
  unfold arriveLoopBarrier at h
  by_cases hw : s.loopBarrier.length = 1
  · obtain ⟨d, hd⟩ := List.length_eq_one_iff.mp hw
    rw [hd, pthreadBarrierWait_one] at h
    dsimp only at h
    split_ifs at h with h1
    simp only [Option.some.injEq] at h
    subst h
    have hs : serial = c ∨ serial = d := by simpa using h1.2
    convert Moves.loopRelease c d serial h1.1 hd hs using 2
    funext x
    simp only [List.mem_cons, List.not_mem_nil, or_false]
    split_ifs <;> tauto
  · rw [pthreadBarrierWait_of_ne hw] at h
    dsimp only at h
    split_ifs at h with h1
    simp only [Option.some.injEq] at h
    subst h
    convert Moves.loopWait c serial h1.1 hw using 2
    funext x
    simp [Function.update_apply]

theorem moves_remove {c : Consumer} (h : s.remove c = some s') : Moves st s (.remove c) s' := by
  unfold remove at h
  split_ifs at h with h1
  split at h <;> rename_i hb <;> simp only [Option.some.injEq] at h <;> subst h
  · exact .removeNone c h1.1 hb
  · exact .removeHead c _ _ h1.1 hb

theorem moves_arrivePrepBarrier {c : Consumer} (h : s.arrivePrepBarrier c = some s') :
    Moves st s (.prepBarrier c) s' := by
  unfold arrivePrepBarrier at h
  by_cases hw : s.prepBarrier.length = 1
  · obtain ⟨d, hd⟩ := List.length_eq_one_iff.mp hw
    rw [hd, pthreadBarrierWait_one] at h
    dsimp only at h
    split_ifs at h with h1
    simp only [Option.some.injEq] at h
    subst h
    convert Moves.prepRelease c d h1 hd using 2
    funext x
    simp only [List.mem_cons, List.not_mem_nil, or_false]
    split_ifs <;> tauto
  · rw [pthreadBarrierWait_of_ne hw] at h
    dsimp only at h
    split_ifs at h with h1
    simp only [Option.some.injEq] at h
    subst h
    convert Moves.prepWait c h1 hw using 2
    funext x
    simp [Function.update_apply]

/-- The inversion of a step. -/
theorem moves_of_step {a : Action α} (h : step st s a = some s') : Moves st s a s' := by
  cases a with
  | connmgrTest => exact moves_connmgrTest h
  | sbufferInsert m =>
    simp only [step, insert, Option.ite_none_right_eq_some, Option.some.injEq] at h
    obtain ⟨⟨h1, h2⟩, rfl⟩ := h
    exact .insert m h1 h2
  | connmgrNext =>
    simp only [step, connmgrNext, Option.ite_none_right_eq_some, Option.some.injEq] at h
    obtain ⟨h1, rfl⟩ := h
    exact .connmgrNext h1
  | connmgrReturn =>
    simp only [step, connmgrReturn, Option.ite_none_right_eq_some, Option.some.injEq] at h
    obtain ⟨h1, rfl⟩ := h
    exact .connmgrReturn h1
  | connmgrEnd =>
    simp only [step, connmgrEnd, Option.ite_none_right_eq_some, Option.some.injEq] at h
    obtain ⟨h1, rfl⟩ := h
    exact .connmgrEnd h1
  | initConnection => exact moves_initConnection h
  | giveUp =>
    simp only [step, giveUp, Option.ite_none_right_eq_some, Option.some.injEq] at h
    obtain ⟨h1, rfl⟩ := h
    exact .giveUp h1
  | loopTest c => exact moves_loopTest h
  | sbufferGetData c => exact moves_getData h
  | process c => exact moves_process h
  | loopBarrier c serial => exact moves_arriveLoopBarrier h
  | remove c => exact moves_remove h
  | prepBarrier c => exact moves_arrivePrepBarrier h

end Gateway

end SensorGateway
