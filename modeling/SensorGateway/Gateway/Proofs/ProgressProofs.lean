import SensorGateway.Lib.Variant
import SensorGateway.Gateway.Proofs.DeliveryProofs
import SensorGateway.Gateway.Proofs.FlagProofs

/-!
# The consumers make progress under every schedule

While a measurement is in the buffer, every step of a consumer brings its removal closer: the
distance is measured by `toGo`. A consumer that polls an empty buffer is the only one that can step
for ever.
-/

namespace SensorGateway

open Transition

variable {α : Type} {σ : Consumer → Type}

/-- The steps of the two consumer threads. -/
def Action.ofConsumer : Action α → Bool
  | .connmgrTest | .sbufferInsert _ | .connmgrNext | .connmgrReturn | .connmgrEnd => false
  | _ => true

/-- How many steps a consumer can still take until it waits at `loop_barrier`. -/
def Pc.distance : Pc → Nat
  | .initConnection tries => 5 + (nrOfTries - tries)
  | .giveUp => 5
  | .loopTest => 4
  | .getData => 3
  | .process => 2
  | .loopBarrier => 1
  | .inLoopBarrier => 0
  | .removing => 7
  | .prepBarrier => 6
  | .inPrepBarrier => 5
  | .ended => 0

/-- Not both consumers are blocked at the same barrier. -/
theorem Waiting.not_both {inside : Consumer → Prop} {w : List Consumer}
    (h : Waiting inside w) {c : Consumer} (hc : inside c) : ¬ inside c.other := by
  cases h with
  | none h => exact absurd hc (h c)
  | one d hd ho =>
    rcases d.eq_or_other c with rfl | rfl
    · exact ho
    · intro hother
      exact ho hc

namespace Gateway

variable {st : Setup α σ} {s s' : Gateway α σ} {n : Nat}

/-- The measurements up to number `n` that nobody is about to remove. -/
def ahead (n : Nat) (s : Gateway α σ) : Nat :=
  n + 1 - s.removed.length -
    if s.pc .datamgr = .removing ∨ s.pc .storagemgr = .removing then 1 else 0

/-- How many steps the consumers can take before measurement number `n` has left the buffer. -/
def toGo (n : Nat) (s : Gateway α σ) : Nat :=
  14 * s.ahead n + (s.pc .datamgr).distance + (s.pc .storagemgr).distance

/-- Measurement number `n` was inserted. -/
structure ProgressInv (st : Setup α σ) (n : Nat) (s : Gateway α σ) : Prop where
  round : s.RoundInv
  flag : FlagInv st s
  inserted : n < s.inserted.length

/-- Measurement number `n` has left the buffer. -/
def Left (n : Nat) (s : Gateway α σ) : Prop := n < s.removed.length

theorem step_inserted {a : Action α} (hs : step st s a = some s') :
    s.inserted <+: s'.inserted := by
  cases moves_of_step hs with
  | insert m => exact List.prefix_append _ _
  | _ => exact List.prefix_rfl

theorem left_of_step (hi : s.RoundInv) {a : Action α} (hs : step st s a = some s')
    (hl : s.Left n) : s'.Left n := by
  unfold Left at hl ⊢
  rcases hi.step_removed hs with heq | ⟨c, m, rest, -, -, -, heq, -⟩
  · rw [heq]
    exact hl
  · rw [heq, List.length_append]
    omega

/-- A measurement that has not left is in the buffer. -/
theorem ProgressInv.buffer_ne_nil (h : ProgressInv st n s) (hl : ¬ s.Left n) : s.buffer ≠ [] := by
  intro hb
  have hins := h.inserted
  rw [h.round.fifo, hb, List.append_nil] at hins
  exact hl hins

/-! ## The distance -/

theorem ahead_eq (n : Nat) (s : Gateway α σ) (c : Consumer) :
    s.ahead n = n + 1 - s.removed.length -
      if s.pc c = .removing ∨ s.pc c.other = .removing then 1 else 0 := by
  unfold ahead
  cases c with
  | datamgr => rfl
  | storagemgr => simp only [Consumer.other, or_comm]

theorem toGo_eq (n : Nat) (s : Gateway α σ) (c : Consumer) :
    s.toGo n = 14 * s.ahead n + (s.pc c).distance + (s.pc c.other).distance := by
  unfold toGo
  cases c with
  | datamgr => rfl
  | storagemgr => exact Nat.add_right_comm _ _ _

/-- The other threads do not show in the distance. -/
theorem toGo_congr (hpc : s'.pc = s.pc) (hr : s'.removed = s.removed) : s'.toGo n = s.toGo n := by
  unfold toGo ahead
  rw [hpc, hr]

/-- A step of one consumer that is not about the removal. -/
theorem toGo_update {c : Consumer} {p q : Pc} (hq : s.pc c = q)
    (hpc : s'.pc = Function.update s.pc c p) (hr : s'.removed = s.removed) (hp : p ≠ .removing)
    (hne : q ≠ .removing) (hlt : p.distance < q.distance) : s'.toGo n < s.toGo n := by
  have hahead : s'.ahead n = s.ahead n := by
    rw [ahead_eq n s' c, ahead_eq n s c, hpc, hr, Function.update_self,
      Function.update_of_ne c.other_ne, hq]
    simp only [hp, hne, false_or]
  rw [toGo_eq n s' c, toGo_eq n s c, hahead, hpc, Function.update_self,
    Function.update_of_ne c.other_ne, hq]
  omega

/-- The second arrival at `loop_barrier`: one measurement less is ahead. -/
theorem toGo_loopRelease {c serial : Consumer} (hl : ¬ s.Left n) (hc : s.pc c = .loopBarrier)
    (ho : s.pc c.other = .inLoopBarrier)
    (hpc : ∀ x, s'.pc x = if x = serial then .removing else .prepBarrier)
    (hr : s'.removed = s.removed) : s'.toGo n < s.toGo n := by
  have hbefore : s.ahead n = n + 1 - s.removed.length := by
    rw [ahead_eq n s c, hc, ho, if_neg (by simp), Nat.sub_zero]
  have hafter : s'.ahead n = n + 1 - s.removed.length - 1 := by
    rw [ahead_eq n s' serial, hpc serial, if_pos rfl, if_pos (.inl rfl), hr]
  unfold Left at hl
  rw [toGo_eq n s' serial, toGo_eq n s c, hbefore, hafter, hc, ho, hpc, hpc, if_pos rfl,
    if_neg serial.other_ne]
  simp only [Pc.distance]
  omega

/-- The removal itself: the measurement that is not ahead any more has left. -/
theorem toGo_remove {c : Consumer} {m : α} (hc : s.pc c = .removing)
    (ho : s.pc c.other ≠ .removing) (hpc : s'.pc = Function.update s.pc c .prepBarrier)
    (hr : s'.removed = s.removed ++ [m]) : s'.toGo n < s.toGo n := by
  have hbefore : s.ahead n = n + 1 - s.removed.length - 1 := by
    rw [ahead_eq n s c, hc, if_pos (.inl rfl)]
  have hafter : s'.ahead n = n + 1 - (s.removed.length + 1) := by
    rw [ahead_eq n s' c, hpc, Function.update_self, Function.update_of_ne c.other_ne, hr,
      if_neg (by simp [ho]), List.length_append, List.length_singleton, Nat.sub_zero]
  rw [toGo_eq n s' c, toGo_eq n s c, hbefore, hafter, hpc, Function.update_self,
    Function.update_of_ne c.other_ne, hc]
  simp only [Pc.distance]
  omega

/-- The second arrival at `prep_barrier`. -/
theorem toGo_prepRelease {c : Consumer} (hc : s.pc c = .prepBarrier)
    (ho : s.pc c.other = .inPrepBarrier) (hpc : ∀ x, s'.pc x = .loopTest)
    (hr : s'.removed = s.removed) : s'.toGo n < s.toGo n := by
  have hahead : s'.ahead n = s.ahead n := by
    rw [ahead_eq n s' c, ahead_eq n s c, hpc, hpc, hr, hc, ho]
    simp only [reduceCtorEq, or_self]
  rw [toGo_eq n s' c, toGo_eq n s c, hahead, hpc, hpc, hc, ho]
  simp only [Pc.distance]
  omega

theorem toGo_lt_of_ofConsumer (h : ProgressInv st n s) {a : Action α} (hl : ¬ s.Left n)
    (ha : a.ofConsumer = true) (hs : step st s a = some s') : s'.toGo n < s.toGo n := by
  have hb := h.buffer_ne_nil hl
  cases moves_of_step hs with
  | connmgrEnter | connmgrLeave | connmgrNext | connmgrReturn | connmgrEnd | insert => cases ha
  | connectOk tries hc =>
    exact toGo_update hc rfl rfl nofun nofun (by simp only [Pc.distance]; omega)
  | connectRetry tries hc hk ht =>
    exact toGo_update hc rfl rfl nofun nofun (by simp only [Pc.distance]; omega)
  | connectFail tries hc =>
    have htries := (h.flag.tries tries hc).1
    exact toGo_update hc rfl rfl nofun nofun (by simp only [Pc.distance]; omega)
  | giveUp hc | testEnter c hc | testExit c hc | readHead c m rest hc | process c m hc
  | loopWait c serial hc | prepWait c hc =>
    exact toGo_update hc rfl rfl nofun nofun (by decide)
  | readEmpty c hc hnil => exact absurd hnil hb
  | removeNone c hc hnil => exact absurd hnil hb
  | removeHead c m rest hc =>
    refine toGo_remove hc ?_ rfl rfl
    intro ho
    cases h.round.phase with
    | gather hg =>
      have := hg c
      rw [Gathering, hc] at this
      exact this
    | removal d m rest hd hod =>
      rcases d.eq_or_other c with rfl | rfl
      · rw [ho] at hod
        exact hod
      · rw [hc] at hod
        exact hod
    | leave hlv =>
      have := hlv c
      rw [hc] at this
      exact this
  | loopRelease c d serial hc hw =>
    obtain ⟨rfl, hd⟩ := h.round.loopBarrier_other hc hw
    exact toGo_loopRelease hl hc hd (fun x => if_pos (c.eq_or_other x)) rfl
  | prepRelease c d hc hw =>
    obtain ⟨rfl, hd⟩ := h.round.prepBarrier_other hc hw
    exact toGo_prepRelease hc hd (fun x => if_pos (c.eq_or_other x)) rfl

theorem toGo_eq_of_not_ofConsumer {a : Action α} (ha : a.ofConsumer = false)
    (hs : step st s a = some s') : s'.toGo n = s.toGo n := by
  cases moves_of_step hs with
  | connmgrEnter | connmgrLeave | connmgrNext | connmgrReturn | connmgrEnd | insert =>
    exact toGo_congr rfl rfl
  | _ => cases ha

/-- At most this many steps of the consumers are ahead. -/
theorem toGo_le (n : Nat) (s : Gateway α σ) : s.toGo n ≤ 14 * (n + 1 - s.removed.length) + 16 := by
  have hdistance : ∀ p : Pc, p.distance ≤ 8 := by
    intro p
    cases p with
    | initConnection tries =>
      simp only [Pc.distance, nrOfTries]
      omega
    | _ => decide
  have hdatamgr := hdistance (s.pc .datamgr)
  have hstoragemgr := hdistance (s.pc .storagemgr)
  unfold toGo ahead
  omega

theorem toGo_variant (st : Setup α σ) (n : Nat) :
    Variant (step st) (ProgressInv st n) (Left n) Action.ofConsumer (toGo n) where
  keep := fun _ _ _ h hs =>
    { round := roundInv_step h.round hs
      flag := flagInv_step h.round h.flag hs
      inserted := Nat.lt_of_lt_of_le h.inserted (step_inserted hs).length_le }
  stable := fun _ _ _ h hs hl => left_of_step h.round hs hl
  lower := fun _ _ _ h hs hl ha =>
    toGo_lt_of_ofConsumer h (fun hleft => hl (left_of_step h.round hs hleft)) ha hs
  other := fun _ _ _ _ hs _ ha => (toGo_eq_of_not_ofConsumer ha hs).le

/-! ## No deadlock while the flag is up -/

/-- A consumer that is neither blocked at a barrier nor out of its loop can step. -/
theorem exists_step_of_running (st : Setup α σ) (hi : s.RoundInv) (hf : FlagInv st s) {c : Consumer}
    (hloop : s.pc c ≠ .inLoopBarrier) (hprep : s.pc c ≠ .inPrepBarrier) (hended : s.pc c ≠ .ended) :
    ∃ a s', Action.ofConsumer a = true ∧ step st s a = some s' := by
  have hunlocked := hi.unlocked
  have hsome : ∀ {o : Option (Gateway α σ)}, o.isSome = true → ∃ s', o = some s' :=
    fun h => Option.isSome_iff_exists.mp h
  cases hpc : s.pc c with
  | initConnection tries =>
    obtain rfl := hf.eq_storagemgr (c := c) (by rw [hpc]; trivial)
    obtain ⟨s', hs'⟩ : ∃ s', s.initConnection st = some s' := by
      apply hsome
      rw [initConnection, hpc]
      dsimp only
      split_ifs <;> rfl
    exact ⟨.initConnection, s', rfl, hs'⟩
  | giveUp =>
    obtain rfl := hf.eq_storagemgr (c := c) (by rw [hpc]; trivial)
    exact ⟨.giveUp, _, rfl, if_pos hpc⟩
  | loopTest =>
    obtain ⟨s', hs'⟩ : ∃ s', s.loopTest c = some s' := by
      apply hsome
      rw [loopTest, if_pos hpc]
      split_ifs <;> rfl
    exact ⟨.loopTest c, s', rfl, hs'⟩
  | getData => exact ⟨.sbufferGetData c, _, rfl, if_pos ⟨hpc, hunlocked⟩⟩
  | process =>
    have hg := hi.gathering (c := c) (by simp [hpc]) (by rw [hpc]; exact id) c
    rw [Gathering, hpc] at hg
    obtain ⟨-, m, -, -, hd⟩ := hg
    obtain ⟨s', hs'⟩ : ∃ s', s.process st c = some s' := by
      rw [process, hpc, hd]
      exact ⟨_, rfl⟩
    exact ⟨.process c, s', rfl, hs'⟩
  | loopBarrier =>
    refine ⟨.loopBarrier c c, _, rfl, if_pos ⟨hpc, ?_⟩⟩
    unfold pthreadBarrierWait
    split_ifs <;> simp
  | inLoopBarrier => exact absurd hpc hloop
  | removing =>
    obtain ⟨s', hs'⟩ : ∃ s', s.remove c = some s' := by
      rw [remove, if_pos ⟨hpc, hunlocked⟩]
      split <;> exact ⟨_, rfl⟩
    exact ⟨.remove c, s', rfl, hs'⟩
  | prepBarrier => exact ⟨.prepBarrier c, _, rfl, if_pos hpc⟩
  | inPrepBarrier => exact absurd hpc hprep
  | ended => exact absurd hpc hended

/-- While the flag is up, one of the consumers can step: never do both wait for the other one. -/
theorem exists_step_of_flag (st : Setup α σ) (hi : s.RoundInv) (hf : FlagInv st s)
    (hflag : s.threadResultConnmgr ≠ 0) :
    ∃ a s', Action.ofConsumer a = true ∧ step st s a = some s' := by
  have hended : ∀ c, s.pc c ≠ .ended := fun c hc => hflag (hf.ended c hc)
  cases hi.phase with
  | gather hg =>
    have hprep : ∀ c, s.pc c ≠ .inPrepBarrier := by
      intro c hc
      have := hg c
      rw [Gathering, hc] at this
      exact this
    by_cases hloop : s.pc .datamgr = .inLoopBarrier
    · exact exists_step_of_running st hi hf (hi.loopBarrier.not_both hloop) (hprep .storagemgr)
        (hended .storagemgr)
    · exact exists_step_of_running st hi hf hloop (hprep .datamgr) (hended .datamgr)
  | removal c m rest hc =>
    exact exists_step_of_running st hi hf (by simp [hc]) (by simp [hc]) (hended c)
  | leave hl =>
    have hloop : ∀ c, s.pc c ≠ .inLoopBarrier := by
      intro c hc
      have := hl c
      rw [hc] at this
      exact this
    by_cases hprep : s.pc .datamgr = .inPrepBarrier
    · exact exists_step_of_running st hi hf (hloop .storagemgr) (hi.prepBarrier.not_both hprep)
        (hended .storagemgr)
    · exact exists_step_of_running st hi hf (hloop .datamgr) hprep (hended .datamgr)

/-! ## The results -/

/-- Measurement number `n` of a state, once it has left the buffer: both consumers have processed
    it. -/
theorem RoundInv.processed_of_left (h : s.RoundInv) (hl : s.Left n) (c : Consumer) :
    (s.processed c)[n]? = s.inserted[n]? := by
  have hlt : n < s.removed.length := hl
  rw [h.fifo, List.getElem?_append_left hlt]
  rcases h.processed_eq c with hp | ⟨m, rest, -, hp⟩
  · rw [hp]
  · rw [hp, List.getElem?_append_left hlt]

theorem inserted_of_run {as : List (Action α)} {s : Gateway α σ}
    (hrun : run (step st) s as = some s') : s.inserted <+: s'.inserted := by
  have hreach := reachVia_of_runVia hrun
  exact hreach.invariant (P := fun t => s.inserted <+: t.inserted) List.prefix_rfl
    fun _ _ _ hp _ hs => hp.trans (step_inserted hs)

/-- Whatever the schedule and whatever else is inserted meanwhile: in every reachable state with the
    flag up a consumer can step, and a measurement with `k` measurements before it in the buffer has
    been processed by both consumers and has left the buffer before they have taken `14 * (k + 1) +
    17` further steps. -/
theorem delivered_within_bound (st : Setup α σ) (acc : (c : Consumer) → σ c) (s : Gateway α σ)
    (h : Reach (step st) (init acc) s) :
    (s.threadResultConnmgr ≠ 0 → ∃ a s', Action.ofConsumer a = true ∧ step st s a = some s') ∧
    ∀ k (m : α), s.buffer[k]? = some m → ∀ as s', run (step st) s as = some s' →
      14 * (k + 1) + 16 < as.countP Action.ofConsumer →
      s'.removed[s.removed.length + k]? = some m ∧
        ∀ c, (s'.processed c)[s.removed.length + k]? = some m := by
  have hround := roundInv_of_reach h
  have hflag := flagInv_of_reach h
  refine ⟨exists_step_of_flag st hround hflag, ?_⟩
  intro k m hm as s' hrun hcount
  have hins : s.inserted[s.removed.length + k]? = some m := by
    rw [hround.fifo, List.getElem?_append_right (Nat.le_add_right _ _), Nat.add_sub_cancel_left, hm]
  have hinv : ProgressInv st (s.removed.length + k) s :=
    ⟨hround, hflag, (List.getElem?_eq_some_iff.mp hins).1⟩
  have hround' : s'.RoundInv := ((toGo_variant st _).keep_run hinv hrun).round
  have hins' : s'.inserted[s.removed.length + k]? = some m := by
    obtain ⟨later, hlater⟩ := inserted_of_run hrun
    rw [← hlater, List.getElem?_append_left hinv.inserted, hins]
  have hleft : s'.Left (s.removed.length + k) := by
    by_contra hl
    have hle := (toGo_variant st _).countP_le hinv hrun hl
    have hbound := toGo_le (s.removed.length + k) s
    omega
  refine ⟨?_, fun c => (hround'.processed_of_left hleft c).trans hins'⟩
  have hfifo := hround'.fifo
  rw [hfifo, List.getElem?_append_left hleft] at hins'
  exact hins'

/-- A round of both consumers, after which the data manager polls the empty buffer. -/
def roundAndPolls : List (Action Nat) :=
  [.loopTest .datamgr, .sbufferGetData .datamgr, .loopTest .storagemgr, .sbufferGetData .storagemgr,
    .process .datamgr, .process .storagemgr, .loopBarrier .storagemgr .storagemgr,
    .loopBarrier .datamgr .datamgr, .remove .datamgr, .prepBarrier .datamgr,
    .prepBarrier .storagemgr] ++
    (List.replicate 10 [.loopTest .datamgr, .sbufferGetData .datamgr]).flatten

/-- A measurement is in the buffer and the storage manager is connected. -/
def sampleInserted : Gateway Nat fun _ => List Nat :=
  (run (step sampleSetup) (init fun _ => []) [.connmgrTest, .initConnection, .sbufferInsert 7]).get
    rfl

theorem delivered_within_bound_sample : ∃ s',
    run (step sampleSetup) sampleInserted roundAndPolls = some s' ∧
      s'.removed[0]? = some 7 ∧ ∀ c, (s'.processed c)[0]? = some 7 := by
  have hrun : run (step sampleSetup) (init fun _ => [])
    [.connmgrTest, .initConnection, .sbufferInsert 7] = some sampleInserted := rfl
  obtain ⟨s', hs'⟩ : ∃ s', run (step sampleSetup) sampleInserted roundAndPolls = some s' := ⟨_, rfl⟩
  have h := (delivered_within_bound sampleSetup (fun _ => []) sampleInserted
    (reachVia_of_runVia hrun)).2 0 7 rfl
  exact ⟨s', hs', h roundAndPolls s' hs' (by decide)⟩

/-- Consumer steps do not lower the flag of a gateway that has a database. -/
theorem connmgr_of_ofConsumer {a : Action α} (ha : a.ofConsumer = true)
    (hs : step st s a = some s') : s'.connmgr = s.connmgr ∧ s'.inserted = s.inserted := by
  cases moves_of_step hs with
  | connmgrEnter | connmgrLeave | connmgrNext | connmgrReturn | connmgrEnd | insert => cases ha
  | _ => exact ⟨rfl, rfl⟩

/-- With a database, as long as the connection manager has not ended, the consumers alone can
    process everything that is in the buffer, in a bounded number of steps. -/
theorem buffer_drains (st : Setup α σ) (hdb : st.Connects) (acc : (c : Consumer) → σ c)
    (s : Gateway α σ) (h : Reach (step st) (init acc) s) (hrun : s.connmgr ≠ .ended) :
    ∃ as s', run (step st) s as = some s' ∧ (∀ a ∈ as, Action.ofConsumer a = true) ∧
      as.length ≤ 14 * s.buffer.length + 17 ∧ s'.buffer = [] ∧
      ∀ c, s'.processed c = s.inserted := by
  have hround := roundInv_of_reach h
  have hflag := flagInv_of_reach h
  -- an empty buffer has been processed
  have hempty : ∀ {t : Gateway α σ}, t.RoundInv → t.inserted = s.inserted → t.buffer = [] →
      ∀ c, t.processed c = s.inserted := by
    intro t ht hins hb c
    rw [← hins, ht.fifo, hb, List.append_nil]
    rcases ht.processed_eq c with hp | ⟨m, rest, hcons, -⟩
    · exact hp
    · rw [hb] at hcons
      cases hcons
  by_cases hb : s.buffer = []
  · exact ⟨[], s, rfl, by simp, by simp, hb, hempty hround rfl hb⟩
  · have hlength : s.inserted.length = s.removed.length + s.buffer.length := by
      rw [hround.fifo, List.length_append]
    have hpos := List.length_pos_of_ne_nil hb
    have hinv : ProgressInv st (s.inserted.length - 1) s := ⟨hround, hflag, by omega⟩
    obtain ⟨as, s', hrun', hall, hleft, ⟨-, hins⟩, hlen⟩ :=
      (toGo_variant st _).exists_run (A := fun t => t.connmgr ≠ .ended ∧ t.inserted = s.inserted)
        (fun t a t' _ hA ha ht => by
          obtain ⟨hmgr, hins⟩ := connmgr_of_ofConsumer ha ht
          rw [hmgr, hins]
          exact hA)
        (fun t hI hA _ => exists_step_of_flag st hI.round hI.flag fun h0 =>
          hA.1 (hI.flag.flag hdb h0))
        hinv ⟨hrun, rfl⟩
    have hround' := ((toGo_variant st _).keep_run hinv hrun').round
    have hbuffer : s'.buffer = [] := by
      have hlength' : s'.inserted.length = s'.removed.length + s'.buffer.length := by
        rw [hround'.fifo, List.length_append]
      unfold Left at hleft
      rw [hins] at hlength'
      exact List.eq_nil_of_length_eq_zero (by omega)
    have hbound := toGo_le (s.inserted.length - 1) s
    exact ⟨as, s', hrun', hall, by omega, hbuffer, hempty hround' hins hbuffer⟩

theorem buffer_drains_sample : ∃ s as s',
    run (step sampleSetup) (init fun _ => []) sampleRound = some s ∧
      run (step sampleSetup) s as = some s' ∧ s'.buffer = [] ∧
      ∀ c, s'.processed c = [7, 9] := by
  obtain ⟨s, hs⟩ : ∃ s, run (step sampleSetup) (init fun _ => []) sampleRound = some s := ⟨_, rfl⟩
  have h := buffer_drains sampleSetup ⟨0, by decide, rfl⟩ (fun _ => []) s (reachVia_of_runVia hs)
  obtain rfl : s = _ := (Option.some.inj hs).symm
  obtain ⟨as, s', hrun, -, -, hb, hp⟩ := h (by decide)
  exact ⟨_, as, s', rfl, hrun, hb, hp⟩

end Gateway

end SensorGateway
