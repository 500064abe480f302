import SensorGateway.Gateway.Proofs.StepProofs

/-!
# The round invariant of the two consumers

Between two removals the consumers go through one round: both gather at `loop_barrier`, the serial
thread removes the head, both leave through `prep_barrier`. `RoundInv` says in which part of the
round the two program counters are and what each consumer has processed there; it is kept by every
step of every thread.
-/

namespace SensorGateway

variable {α : Type} {σ : Consumer → Type}

/-- Released from `loop_barrier` and not yet back at the loop test. -/
def Pc.Leaving : Pc → Prop
  | .prepBarrier | .inPrepBarrier => True
  | _ => False

/-- Running, and not yet released from `loop_barrier` in this round. -/
def Pc.Unblocked : Pc → Prop
  | .inLoopBarrier | .removing | .prepBarrier | .inPrepBarrier => False
  | _ => True

/-- What a barrier's waiting list is, given which threads are blocked in it. -/
inductive Waiting (inside : Consumer → Prop) : List Consumer → Prop where
  | none (h : ∀ c, ¬ inside c) : Waiting inside []
  | one (c : Consumer) (h : inside c) (ho : ¬ inside c.other) : Waiting inside [c]

theorem Waiting.eq_nil {inside : Consumer → Prop} {w : List Consumer} (h : Waiting inside w)
    (hn : ∀ c, ¬ inside c) : w = [] := by
  cases h with
  | none => rfl
  | one c hc => exact absurd hc (hn c)

/-- A step of `c` that keeps `c` off both barriers does not change their waiting lists. -/
theorem Waiting.update {w : List Consumer} {pc : Consumer → Pc} {x p : Pc} {c : Consumer}
    (h : Waiting (fun d => pc d = x) w) (hc : pc c ≠ x) (hp : p ≠ x) :
    Waiting (fun d => Function.update pc c p d = x) w := by
  have he : ∀ d, Function.update pc c p d = x ↔ pc d = x := by
    intro d
    rcases eq_or_ne d c with rfl | hd
    · simp [hc, hp]
    · simp [hd]
  simpa only [he] using h

/-- A consumer that arrives first waits alone. -/
theorem Waiting.arrive {w : List Consumer} {pc : Consumer → Pc} {x : Pc} {c : Consumer}
    (h : Waiting (fun d => pc d = x) w) (hw : w.length ≠ 1) :
    Waiting (fun d => Function.update pc c x d = x) (c :: w) := by
  cases h with
  | none h =>
    refine .one c (by simp) ?_
    simpa using h c.other
  | one d _ _ => exact absurd rfl hw

/-- The thread that waits when another one completes the round is the other consumer. -/
theorem Waiting.other_waits {pc : Consumer → Pc} {x : Pc} {c d : Consumer}
    (h : Waiting (fun d => pc d = x) [d]) (hc : pc c ≠ x) : d = c.other ∧ pc d = x := by
  cases h with
  | one _ hd _ =>
    rcases c.eq_or_other d with rfl | rfl
    · exact absurd hd hc
    · exact ⟨rfl, hd⟩

namespace Gateway

variable {st : Setup α σ} {s s' : Gateway α σ}

/-- Consumer `c` has not been released from `loop_barrier` in this round. -/
def Gathering (s : Gateway α σ) (c : Consumer) : Prop :=
  match s.pc c with
  | .initConnection _ | .giveUp | .loopTest | .getData | .ended => s.processed c = s.removed
  | .process =>
    s.processed c = s.removed ∧ ∃ m rest, s.buffer = m :: rest ∧ s.data c = some m
  | .loopBarrier | .inLoopBarrier =>
    ∃ m rest, s.buffer = m :: rest ∧ s.data c = some m ∧ s.processed c = s.removed ++ [m]
  | .removing | .prepBarrier | .inPrepBarrier => False

/-- The part of the round the consumers are in. -/
inductive Phase (s : Gateway α σ) : Prop where
  | gather (h : ∀ c, s.Gathering c)
  | removal (c : Consumer) (m : α) (rest : List α) (hc : s.pc c = .removing)
      (ho : (s.pc c.other).Leaving) (hb : s.buffer = m :: rest) (hd : s.data c = some m)
      (hp : ∀ d, s.processed d = s.removed ++ [m])
  | leave (h : ∀ c, (s.pc c).Leaving) (hp : ∀ c, s.processed c = s.removed)

structure RoundInv (s : Gateway α σ) : Prop where
  unlocked : s.wrlocked = none
  fifo : s.inserted = s.removed ++ s.buffer
  loopBarrier : Waiting (fun c => s.pc c = .inLoopBarrier) s.loopBarrier
  prepBarrier : Waiting (fun c => s.pc c = .inPrepBarrier) s.prepBarrier
  phase : s.Phase

/-! ## Frame lemmas -/

theorem Gathering.congr {c : Consumer} (h : s.Gathering c) (hpc : s'.pc c = s.pc c)
    (hb : s'.buffer = s.buffer) (hd : s'.data c = s.data c) (hr : s'.removed = s.removed)
    (hp : s'.processed c = s.processed c) : s'.Gathering c := by
  unfold Gathering at h ⊢
  rw [hpc, hb, hd, hr, hp]
  exact h

/-- When `c` completes the round of `loop_barrier`, the other consumer waits there. -/
theorem RoundInv.loopBarrier_other (h : s.RoundInv) {c d : Consumer} (hc : s.pc c = .loopBarrier)
    (hw : s.loopBarrier = [d]) : d = c.other ∧ s.pc d = .inLoopBarrier := by
  have hwait := h.loopBarrier
  rw [hw] at hwait
  exact hwait.other_waits (by simp [hc])

/-- When `c` completes the round of `prep_barrier`, the other consumer waits there. -/
theorem RoundInv.prepBarrier_other (h : s.RoundInv) {c d : Consumer} (hc : s.pc c = .prepBarrier)
    (hw : s.prepBarrier = [d]) : d = c.other ∧ s.pc d = .inPrepBarrier := by
  have hwait := h.prepBarrier
  rw [hw] at hwait
  exact hwait.other_waits (by simp [hc])

/-- While a consumer stands at a place of the gathering part, so does the other one. -/
theorem RoundInv.gathering (h : s.RoundInv) {c : Consumer} (hr : s.pc c ≠ .removing)
    (hl : ¬ (s.pc c).Leaving) : ∀ d, s.Gathering d := by
  cases h.phase with
  | gather h => exact h
  | removal d m rest hd ho =>
    rcases d.eq_or_other c with rfl | rfl
    · exact absurd hd hr
    · exact absurd ho hl
  | leave h => exact absurd (h c) hl

/-- A step of `c` to `p` that leaves the buffer, the barriers and the private state of the other
    consumer alone. -/
structure PrivateStep (c : Consumer) (p : Pc) (s s' : Gateway α σ) : Prop where
  wrlocked : s'.wrlocked = s.wrlocked
  buffer : s'.buffer = s.buffer
  inserted : s'.inserted = s.inserted
  removed : s'.removed = s.removed
  loopBarrier : s'.loopBarrier = s.loopBarrier
  prepBarrier : s'.prepBarrier = s.prepBarrier
  pc : s'.pc = Function.update s.pc c p
  data : s'.data c.other = s.data c.other
  processed : s'.processed c.other = s.processed c.other

theorem RoundInv.private_step (h : s.RoundInv) {c : Consumer} {p q : Pc} (hc : s.pc c = q)
    (hs : PrivateStep c p s s') (hq : q.Unblocked) (hp : p.Unblocked)
    (hg : s.Gathering c → s'.Gathering c) : s'.RoundInv := by
  have hall : ∀ d, s.Gathering d := h.gathering (c := c)
    (by rw [hc]; rintro rfl; exact hq) (by rw [hc]; cases q <;> first | exact hq.elim | exact id)
  refine
    { unlocked := hs.wrlocked.trans h.unlocked
      fifo := by rw [hs.inserted, hs.removed, hs.buffer, h.fifo]
      loopBarrier := ?_
      prepBarrier := ?_
      phase := .gather (c.forall_iff.mpr ⟨hg (hall c), ?_⟩) }
  · rw [hs.loopBarrier, hs.pc]
    exact h.loopBarrier.update (by rw [hc]; rintro rfl; exact hq) (by rintro rfl; exact hp)
  · rw [hs.prepBarrier, hs.pc]
    exact h.prepBarrier.update (by rw [hc]; rintro rfl; exact hq) (by rintro rfl; exact hp)
  · exact (hall c.other).congr (by simp [hs.pc]) hs.buffer hs.data hs.removed hs.processed

/-! ## The invariant is kept -/

theorem roundInv_init (acc : (c : Consumer) → σ c) : (init acc : Gateway α σ).RoundInv where
  unlocked := rfl
  fifo := rfl
  loopBarrier := .none fun c => by cases c <;> simp [init]
  prepBarrier := .none fun c => by cases c <;> simp [init]
  phase := .gather fun c => by cases c <;> simp [Gathering, init]

/-- The invariant does not look at the flag, at the connection manager or at the results. -/
theorem RoundInv.congr (h : s.RoundInv) (hw : s'.wrlocked = s.wrlocked)
    (hi : s'.inserted = s.inserted) (hr : s'.removed = s.removed) (hb : s'.buffer = s.buffer)
    (hl : s'.loopBarrier = s.loopBarrier) (hpb : s'.prepBarrier = s.prepBarrier)
    (hpc : s'.pc = s.pc) (hd : s'.data = s.data) (hp : s'.processed = s.processed) :
    s'.RoundInv := by
  refine ⟨hw.trans h.unlocked, by rw [hi, hr, hb, h.fifo], by rw [hl, hpc]; exact h.loopBarrier,
    by rw [hpb, hpc]; exact h.prepBarrier, ?_⟩
  cases h.phase with
  | gather hg =>
    exact .gather fun c => (hg c).congr (by rw [hpc]) hb (by rw [hd]) hr (by rw [hp])
  | removal c m rest hc ho hb' hd' hp' =>
    exact .removal c m rest (by rw [hpc, hc]) (by rw [hpc]; exact ho) (by rw [hb, hb'])
      (by rw [hd, hd']) (by rw [hp, hr]; exact hp')
  | leave hl' hp' => exact .leave (by rw [hpc]; exact hl') (by rw [hp, hr]; exact hp')

theorem roundInv_insert (h : s.RoundInv) (m : α) :
    RoundInv { s with buffer := s.buffer ++ [m], inserted := s.inserted ++ [m] } := by
  refine ⟨h.unlocked, by simp [h.fifo], h.loopBarrier, h.prepBarrier, ?_⟩
  cases h.phase with
  | gather hg =>
    refine .gather ?_
    intro c
    have := hg c
    unfold Gathering at this ⊢
    dsimp only
    split at this
    · exact this
    · exact this
    · exact this
    · exact this
    · exact this
    · obtain ⟨hp, x, rest, hb, hd⟩ := this
      exact ⟨hp, x, rest ++ [m], by simp [hb], hd⟩
    · obtain ⟨x, rest, hb, hd, hp⟩ := this
      exact ⟨x, rest ++ [m], by simp [hb], hd, hp⟩
    · obtain ⟨x, rest, hb, hd, hp⟩ := this
      exact ⟨x, rest ++ [m], by simp [hb], hd, hp⟩
    · exact this
    · exact this
    · exact this
  | removal c x rest hc ho hb hd hp =>
    exact .removal c x (rest ++ [m]) hc ho (by simp [hb]) hd hp
  | leave hl hp => exact .leave hl hp

/-- Nobody waits at `prep_barrier` while the consumers gather. -/
theorem RoundInv.prepBarrier_nil (h : s.RoundInv) (hg : ∀ c, s.Gathering c) :
    s.prepBarrier = [] := by
  refine h.prepBarrier.eq_nil ?_
  intro c hc
  have := hg c
  simp [Gathering, hc] at this

theorem roundInv_loopWait (h : s.RoundInv) {c : Consumer} (hc : s.pc c = .loopBarrier)
    (hw : s.loopBarrier.length ≠ 1) :
    RoundInv { s with
      loopBarrier := c :: s.loopBarrier, pc := Function.update s.pc c .inLoopBarrier } := by
  have hall := h.gathering (c := c) (by simp [hc]) (by simp [hc, Pc.Leaving])
  refine ⟨h.unlocked, h.fifo, h.loopBarrier.arrive hw,
    h.prepBarrier.update (by simp [hc]) (by simp),
    .gather (c.forall_iff.mpr ⟨?_, ?_⟩)⟩
  · have := hall c
    simp only [Gathering, hc] at this
    simpa [Gathering] using this
  · exact (hall c.other).congr (by simp) rfl rfl rfl rfl

/-- The second arrival at `loop_barrier`: both consumers have processed the head. -/
theorem roundInv_loopRelease (h : s.RoundInv) {c d serial : Consumer} (hc : s.pc c = .loopBarrier)
    (hw : s.loopBarrier = [d]) (hs : serial = c ∨ serial = d) :
    RoundInv { s with
      loopBarrier := []
      pc := fun x => if x = c ∨ x = d then (if x = serial then .removing else .prepBarrier)
        else s.pc x } := by
  have hall := h.gathering (c := c) (by simp [hc]) (by simp [hc, Pc.Leaving])
  obtain ⟨rfl, hd⟩ := h.loopBarrier_other hc hw
  obtain ⟨m, rest, hb, hdc, hpc⟩ : ∃ m rest, s.buffer = m :: rest ∧ s.data c = some m ∧
      s.processed c = s.removed ++ [m] := by simpa [Gathering, hc] using hall c
  obtain ⟨m', rest', hb', hdo, hpo⟩ : ∃ m rest, s.buffer = m :: rest ∧ s.data c.other = some m ∧
      s.processed c.other = s.removed ++ [m] := by simpa [Gathering, hd] using hall c.other
  obtain ⟨rfl, rfl⟩ : m = m' ∧ rest = rest' := by simpa [hb] using hb'
  have hpcs : (fun x => if x = c ∨ x = c.other then
      (if x = serial then Pc.removing else .prepBarrier)
      else s.pc x) = fun x => if x = serial then .removing else .prepBarrier :=
    funext fun x => if_pos (c.eq_or_other x)
  rw [hpcs]
  refine ⟨h.unlocked, h.fifo, .none fun x => ?_, ?_, .removal serial m rest ?_ ?_ hb ?_ ?_⟩
  · dsimp only; split_ifs <;> simp
  · rw [h.prepBarrier_nil hall]
    exact .none fun x => by dsimp only; split_ifs <;> simp
  · simp
  · simp [Pc.Leaving]
  · rcases hs with rfl | rfl
    · exact hdc
    · exact hdo
  · exact c.forall_iff.mpr ⟨hpc, hpo⟩

/-- The serial thread finds the measurement that both consumers have processed. -/
theorem RoundInv.removing (h : s.RoundInv) {c : Consumer} (hc : s.pc c = .removing) :
    (s.pc c.other).Leaving ∧ ∃ m rest, s.buffer = m :: rest ∧ s.data c = some m ∧
      ∀ d, s.processed d = s.removed ++ [m] := by
  cases h.phase with
  | gather hg =>
    have := hg c
    simp [Gathering, hc] at this
  | removal d m rest hd ho hb hdd hp =>
    rcases d.eq_or_other c with rfl | rfl
    · exact ⟨ho, m, rest, hb, hdd, hp⟩
    · rw [hc] at ho
      exact ho.elim
  | leave hl =>
    have := hl c
    rw [hc] at this
    exact this.elim

theorem roundInv_removeHead (h : s.RoundInv) {c : Consumer} {m : α} {rest : List α}
    (hc : s.pc c = .removing) (hb : s.buffer = m :: rest) :
    RoundInv { s with
      buffer := rest, data := Function.update s.data c (some m), removed := s.removed ++ [m]
      pc := Function.update s.pc c .prepBarrier } := by
  obtain ⟨ho, m', rest', hb', -, hp⟩ := h.removing hc
  obtain ⟨rfl, rfl⟩ : m = m' ∧ rest = rest' := by simpa [hb] using hb'
  refine ⟨h.unlocked, by simp [h.fifo, hb], h.loopBarrier.update (by simp [hc]) (by simp),
    h.prepBarrier.update (by simp [hc]) (by simp), .leave (c.forall_iff.mpr ⟨?_, ?_⟩) hp⟩
  · simp [Pc.Leaving]
  · simpa using ho

theorem roundInv_prepWait (h : s.RoundInv) {c : Consumer} (hc : s.pc c = .prepBarrier)
    (hw : s.prepBarrier.length ≠ 1) :
    RoundInv { s with
      prepBarrier := c :: s.prepBarrier, pc := Function.update s.pc c .inPrepBarrier } := by
  refine ⟨h.unlocked, h.fifo, h.loopBarrier.update (by simp [hc]) (by simp),
    h.prepBarrier.arrive hw, ?_⟩
  cases h.phase with
  | gather hg =>
    have := hg c
    simp [Gathering, hc] at this
  | removal d m rest hd ho hb hdd hp =>
    rcases d.eq_or_other c with rfl | rfl
    · rw [hc] at hd
      cases hd
    · exact .removal d m rest (by simpa using hd) (by simp [Pc.Leaving]) hb hdd hp
  | leave hl hp =>
    refine .leave (c.forall_iff.mpr ⟨by simp [Pc.Leaving], ?_⟩) hp
    simpa using hl c.other

/-- The second arrival at `prep_barrier`: the head is gone, both consumers start the next round. -/
theorem roundInv_prepRelease (h : s.RoundInv) {c d : Consumer} (hc : s.pc c = .prepBarrier)
    (hw : s.prepBarrier = [d]) :
    RoundInv { s with
      prepBarrier := []
      pc := fun x => if x = c ∨ x = d then .loopTest else s.pc x } := by
  obtain ⟨rfl, hd⟩ := h.prepBarrier_other hc hw
  have hpcs : (fun x => if x = c ∨ x = c.other then Pc.loopTest else s.pc x) = fun _ => .loopTest :=
    funext fun x => if_pos (c.eq_or_other x)
  have hloop : s.loopBarrier = [] := by
    refine h.loopBarrier.eq_nil (c.forall_iff.mpr ⟨?_, ?_⟩)
    · rw [hc]; simp
    · rw [hd]; simp
  rw [hpcs]
  refine ⟨h.unlocked, h.fifo, ?_, .none fun x => by simp, ?_⟩
  · rw [hloop]
    exact .none fun x => by simp
  · cases h.phase with
    | gather hg =>
      have := hg c
      simp [Gathering, hc] at this
    | removal x m rest hx ho hb hdd hp =>
      rcases c.eq_or_other x with rfl | rfl
      · rw [hc] at hx; cases hx
      · rw [hd] at hx; cases hx
    | leave hl hp =>
      refine .gather ?_
      intro x
      exact hp x

/-- The invariant is kept by every step. -/
theorem roundInv_step {a : Action α} (h : s.RoundInv) (hst : step st s a = some s') :
    s'.RoundInv := by
  cases moves_of_step hst with
  | connmgrEnter | connmgrLeave | connmgrNext | connmgrReturn | connmgrEnd =>
    exact h.congr rfl rfl rfl rfl rfl rfl rfl rfl rfl
  | insert m => exact roundInv_insert h m
  | connectOk tries hc | connectRetry tries hc | connectFail tries hc | giveUp hc =>
    exact h.private_step hc ⟨rfl, rfl, rfl, rfl, rfl, rfl, rfl, rfl, rfl⟩ trivial trivial
      (by simp [Gathering, hc])
  | testEnter c hc | testExit c hc | readEmpty c hc =>
    exact h.private_step hc ⟨rfl, rfl, rfl, rfl, rfl, rfl, rfl, rfl, rfl⟩ trivial trivial
      (by simp [Gathering, hc])
  | readHead c m rest hc hb =>
    refine h.private_step hc ⟨rfl, rfl, rfl, rfl, rfl, rfl, rfl, by simp, rfl⟩ trivial trivial
      fun hg => ?_
    have hp : s.processed c = s.removed := by simpa [Gathering, hc] using hg
    simp [Gathering, hp, hb]
  | process c m hc hd =>
    refine h.private_step hc ⟨rfl, rfl, rfl, rfl, rfl, rfl, rfl, rfl, by simp⟩ trivial trivial
      fun hg => ?_
    obtain ⟨hp, x, rest, hb, hx⟩ : s.processed c = s.removed ∧
        ∃ m rest, s.buffer = m :: rest ∧ s.data c = some m := by simpa [Gathering, hc] using hg
    obtain rfl : m = x := by simpa [hd] using hx
    simp [Gathering, hp, hb, hd]
  | loopWait c serial hc hw => exact roundInv_loopWait h hc hw
  | loopRelease c d serial hc hw hs => exact roundInv_loopRelease h hc hw hs
  | removeNone c hc hb =>
    obtain ⟨-, m, rest, hb', -⟩ := h.removing hc
    rw [hb] at hb'
    cases hb'
  | removeHead c m rest hc hb => exact roundInv_removeHead h hc hb
  | prepWait c hc hw => exact roundInv_prepWait h hc hw
  | prepRelease c d hc hw => exact roundInv_prepRelease h hc hw

theorem roundInv_of_reach {acc : (c : Consumer) → σ c}
    (h : Transition.Reach (step st) (init acc) s) : s.RoundInv :=
  h.invariant (roundInv_init acc) fun _ _ _ hi _ hs => roundInv_step hi hs

end Gateway

end SensorGateway
