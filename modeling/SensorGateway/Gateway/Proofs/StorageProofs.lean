import SensorGateway.Gateway.Storage
import SensorGateway.Gateway.Proofs.FlagProofs
import SensorGateway.Gateway.Proofs.DeliveryProofs

/-!
# What is stored and what is removed

The private state of a consumer is the fold of its processing over the measurements it has processed
(`acc_eq_foldl`). For the storage manager this is the list of its `insert_sensor` calls; since its
loop ignores their results, what leaves the buffer has been stored exactly when no call fails.
-/

namespace SensorGateway

open Transition

variable {α : Type} {σ : Consumer → Type}

namespace Gateway

variable {st : Setup α σ} {s s' : Gateway α σ} {acc : (c : Consumer) → σ c}

/-! ## The private state of a consumer -/

/-- The consumers whose loop processes measurements: not `finish_datamgr`. -/
def Processes (st : Setup α σ) (c : Consumer) : Prop := c = .datamgr ∨ st.Connects

structure AccInv (st : Setup α σ) (acc : (c : Consumer) → σ c) (s : Gateway α σ) : Prop where
  connected : st.Connects → (s.pc .storagemgr).Starting ∨ s.connected = true
  acc : ∀ c, Processes st c →
    s.acc c = (s.processed c).foldl (fun x m => st.process c m x) (acc c)

/-- Most steps neither process a measurement nor connect to the database. -/
theorem AccInv.congr (h : AccInv st acc s) (hk : s'.connected = s.connected) (ha : s'.acc = s.acc)
    (hp : s'.processed = s.processed)
    (hs : (s.pc .storagemgr).Starting → (s'.pc .storagemgr).Starting ∨ ¬ st.Connects) :
    AccInv st acc s' where
  connected := fun hc => by
    rcases h.connected hc with hst | hst
    · exact .inl ((hs hst).resolve_right (not_not.mpr hc))
    · exact .inr (hk.trans hst)
  acc := by rw [ha, hp]; exact h.acc

/-- A step of `c` inside its loop does not start the storage manager. -/
theorem starting_update {pc : Consumer → Pc} {c : Consumer} {p : Pc} (hc : ¬ (pc c).Starting)
    (h : (pc .storagemgr).Starting) : (Function.update pc c p .storagemgr).Starting := by
  have hne : .storagemgr ≠ c := by
    rintro rfl
    exact hc h
  rwa [Function.update_of_ne hne]

theorem accInv_step {a : Action α} (hr : s.RoundInv) (hf : FlagInv st s) (h : AccInv st acc s)
    (hst : step st s a = some s') : AccInv st acc s' := by
  cases moves_of_step hst with
  | connmgrEnter | connmgrLeave | connmgrNext | connmgrReturn | connmgrEnd | insert =>
    exact h.congr rfl rfl rfl .inl
  | connectOk tries hc => exact ⟨fun _ => .inr rfl, h.acc⟩
  | connectRetry tries hc => exact h.congr rfl rfl rfl fun _ => .inl (by simp [Pc.Starting])
  | connectFail tries hc => exact h.congr rfl rfl rfl fun _ => .inl (by simp [Pc.Starting])
  | giveUp hc => exact h.congr rfl rfl rfl fun _ => .inr (hf.gaveUp hc)
  | testEnter c hc | testExit c hc | readEmpty c hc | readHead c m rest hc | loopWait c serial hc
  | removeNone c hc | removeHead c m rest hc | prepWait c hc =>
    exact h.congr rfl rfl rfl fun hs => .inl (starting_update (by rw [hc]; exact id) hs)
  | process c m hc hd =>
    refine ⟨fun hk => ?_, ?_⟩
    · rcases h.connected hk with hs | hs
      · exact .inl (starting_update (by rw [hc]; exact id) hs)
      · exact .inr hs
    · refine c.forall_iff.mpr ⟨fun hp => ?_, fun hp => ?_⟩
      · have hcon : ¬ (c = .storagemgr ∧ ¬ s.connected = true) := by
          rintro ⟨rfl, hk⟩
          rcases hp with hp | hp
          · cases hp
          · rcases h.connected hp with hs | hs
            · rw [hc] at hs
              exact hs
            · exact hk hs
        dsimp only
        rw [if_neg hcon, Function.update_self, Function.update_self, List.foldl_append,
          ← h.acc c hp]
        rfl
      · dsimp only
        rw [Function.update_of_ne c.other_ne, ← h.acc _ hp]
        split_ifs
        · rfl
        · exact Function.update_of_ne c.other_ne _ _
  | loopRelease c d serial hc hw =>
    obtain ⟨rfl, hd⟩ := hr.loopBarrier_other hc hw
    have hstarted : ∀ x, ¬ (s.pc x).Starting :=
      c.forall_iff.mpr ⟨by rw [hc]; exact id, by rw [hd]; exact id⟩
    exact h.congr rfl rfl rfl fun hs => absurd hs (hstarted .storagemgr)
  | prepRelease c d hc hw =>
    obtain ⟨rfl, hd⟩ := hr.prepBarrier_other hc hw
    have hstarted : ∀ x, ¬ (s.pc x).Starting :=
      c.forall_iff.mpr ⟨by rw [hc]; exact id, by rw [hd]; exact id⟩
    exact h.congr rfl rfl rfl fun hs => absurd hs (hstarted .storagemgr)

/-- The private state of a consumer is the fold of its processing over what it has processed. -/
theorem acc_eq_foldl (h : Reach (step st) (init acc) s) {c : Consumer} (hc : Processes st c) :
    s.acc c = (s.processed c).foldl (fun x m => st.process c m x) (acc c) := by
  have := h.invariant (P := fun s => s.RoundInv ∧ FlagInv st s ∧ AccInv st acc s)
    ⟨roundInv_init acc, flagInv_init acc, fun _ => .inl trivial, fun _ _ => rfl⟩
    fun _ _ _ hi _ hs => ⟨roundInv_step hi.1 hs, flagInv_step hi.1 hi.2.1 hs,
      accInv_step hi.1 hi.2.1 hi.2.2 hs⟩
  exact this.2.2.acc c hc

/-! ## Whole rounds -/

/-- Both consumers are at their loop tests, the storage manager connected, and nothing is
    buffered. -/
structure Ready (s : Gateway α σ) : Prop where
  flag : s.threadResultConnmgr = threadRunning
  connmgr : s.connmgr = .iteration
  buffer : s.buffer = []
  wrlocked : s.wrlocked = none
  loopBarrier : s.loopBarrier = []
  prepBarrier : s.prepBarrier = []
  connected : s.connected = true
  pc : s.pc = fun _ => .loopTest

/-- The labels of one round on a measurement `m`. -/
def round (m : α) : List (Action α) :=
  [.sbufferInsert m, .loopTest .datamgr, .sbufferGetData .datamgr, .loopTest .storagemgr,
    .sbufferGetData .storagemgr, .process .datamgr, .process .storagemgr,
    .loopBarrier .datamgr .datamgr, .loopBarrier .storagemgr .datamgr, .remove .datamgr,
    .prepBarrier .datamgr, .prepBarrier .storagemgr]

variable (st) in
theorem Ready.round (h : s.Ready) (m : α) :
    ∃ s', Reach (step st) s s' ∧ s'.Ready ∧ s'.removed = s.removed ++ [m] := by
  obtain ⟨flag, connmgr, buffer, wrlocked, loopB, prepB, connected, pc, result, data, acc, ins, rem,
    proc⟩ := s
  obtain ⟨rfl, rfl, rfl, rfl, rfl, rfl, rfl, rfl⟩ := h
  obtain ⟨s', hs'⟩ : ∃ s', run (step st) (Gateway.mk threadRunning .iteration [] none [] []
    true (fun _ => .loopTest) result data acc ins rem proc) (Gateway.round m) = some s' := ⟨_, rfl⟩
  refine ⟨s', reachVia_of_runVia hs', ?_⟩
  obtain rfl : s' = _ := (Option.some.inj hs').symm
  refine ⟨⟨rfl, rfl, rfl, rfl, rfl, rfl, rfl, ?_⟩, rfl⟩
  funext c
  cases c <;> rfl

variable (st) in
theorem Ready.rounds : ∀ (l : List α) {s : Gateway α σ}, s.Ready →
    ∃ s', Reach (step st) s s' ∧ s'.Ready ∧ s'.removed = s.removed ++ l
  | [], s, h => ⟨s, .refl, h, by simp⟩
  | m :: l, s, h => by
    obtain ⟨t, ht, hr, he⟩ := h.round st m
    obtain ⟨u, hu, hr', he'⟩ := Ready.rounds l hr
    exact ⟨u, Relation.ReflTransGen.trans ht hu, hr', by simp [he', he]⟩

/-- The storage manager is before connection attempt `tries`. -/
def connecting (acc : (c : Consumer) → σ c) (tries : Nat) : Gateway α σ :=
  { init acc with
    connmgr := .iteration
    pc := Function.update (fun _ => .loopTest) .storagemgr (.initConnection tries) }

variable (st) in
/-- With a database, the storage manager gets into its loop. -/
theorem connecting_ready (acc : (c : Consumer) → σ c) : ∀ (left tries : Nat),
    tries + left = nrOfTries → (∃ k, tries ≤ k ∧ k < nrOfTries ∧ st.initConnection k = true) →
    ∃ s, Reach (step st) (connecting acc tries) s ∧ s.Ready ∧ s.removed = ([] : List α)
  | 0, tries, ht, hk => by
    obtain ⟨k, h1, h2, -⟩ := hk
    omega
  | left + 1, tries, ht, hk => by
    by_cases hok : st.initConnection tries = true
    · have hs : step st (connecting acc tries : Gateway α σ) .initConnection =
          some { connecting acc tries with connected := true, pc := fun _ => .loopTest } := by
        simp [step, initConnection, connecting, hok]
      exact ⟨_, .single ⟨_, trivial, hs⟩, ⟨rfl, rfl, rfl, rfl, rfl, rfl, rfl, rfl⟩, rfl⟩
    · obtain ⟨k, h1, h2, h3⟩ := hk
      have hne : tries ≠ k := by
        rintro rfl
        exact hok h3
      have hlt : tries + 1 < nrOfTries := by omega
      have hs : step st (connecting acc tries : Gateway α σ) .initConnection =
          some (connecting acc (tries + 1)) := by
        simp [step, initConnection, connecting, hok, hlt]
      obtain ⟨t, ht', hr, he⟩ := connecting_ready acc left (tries + 1) (by omega)
        ⟨k, by omega, h2, h3⟩
      exact ⟨t, .head ⟨_, trivial, hs⟩ ht', hr, he⟩

/-- With a database, any list of measurements can go through the gateway. -/
theorem reach_removed (st : Setup α σ) (hdb : st.Connects) (acc : (c : Consumer) → σ c)
    (l : List α) : ∃ s, Reach (step st) (init acc) s ∧ s.Ready ∧ s.removed = l := by
  obtain ⟨k, hk, hok⟩ := hdb
  have hs : step st (init acc : Gateway α σ) .connmgrTest = some (connecting acc 0) := by
    have hpc : (init acc : Gateway α σ).pc =
        Function.update (fun _ => .loopTest) .storagemgr (.initConnection 0) := by
      funext c
      cases c <;> rfl
    simp [step, connmgrTest, connecting, ← hpc, init, threadRunning]
  obtain ⟨t, ht, hr, he⟩ := connecting_ready st acc nrOfTries 0 (by omega)
    ⟨k, by omega, hk, hok⟩
  obtain ⟨u, hu, hr', he'⟩ := Ready.rounds st l hr
  exact ⟨u, .head ⟨_, trivial, hs⟩ (ht.trans hu), hr', by simp [he', he]⟩

end Gateway

/-! ## The calls of `insert_sensor` -/

/-- Call number `i` is about measurement number `i`. -/
theorem calls_eq_mapIdx (exec : Nat → Int) (l : List α) :
    l.foldl (fun calls m => calls ++ [(m, insertSensor (exec calls.length))]) [] =
      l.mapIdx fun i m => (m, insertSensor (exec i)) := by
  induction l using List.reverseRecOn with
  | nil => rfl
  | append_singleton l m ih => simp [List.mapIdx_append, ih]

theorem map_fst_calls (exec : Nat → Int) (l : List α) :
    (l.mapIdx fun i m => (m, insertSensor (exec i))).map Prod.fst = l := by
  refine List.ext_getElem (by simp) ?_
  intro i h1 h2
  simp

/-- If no call fails, everything is stored. -/
theorem stored_of_ok {exec : Nat → Int} {l : List α} (h : ∀ n < l.length, exec n = sqliteOk) :
    stored (l.mapIdx fun i m => (m, insertSensor (exec i))) = l ∧
      failed (l.mapIdx fun i m => (m, insertSensor (exec i))) = [] := by
  have hok : ∀ call ∈ l.mapIdx fun i m => (m, insertSensor (exec i)), call.2 = 0 := by
    intro call hc
    obtain ⟨i, hi, rfl⟩ := List.mem_mapIdx.mp hc
    simp [insertSensor, h i hi]
  constructor
  · rw [stored, List.filter_eq_self.mpr (by simpa using hok), map_fst_calls]
  · simpa [failed] using hok

/-- If a call fails, its measurement is not stored. -/
theorem stored_length_lt {exec : Nat → Int} {n : Nat} (h : exec n ≠ sqliteOk) {l : List α}
    (hn : n < l.length) :
    (stored (l.mapIdx fun i m => (m, insertSensor (exec i)))).length < l.length := by
  have hlt : ((l.mapIdx fun i m => (m, insertSensor (exec i))).filter
      fun call => decide (call.2 = 0)).length <
        (l.mapIdx fun i m => (m, insertSensor (exec i))).length := by
    refine List.length_filter_lt_length_iff_exists.mpr ⟨(l[n], insertSensor (exec n)), ?_, ?_⟩
    · exact List.mem_mapIdx.mpr ⟨n, hn, rfl⟩
    · simp [insertSensor, h]
  simpa [stored] using hlt

namespace Gateway

/-- The calls that `sqlite3_exec` has answered in a run with a database. -/
theorem calls_eq {initConnection : Nat → Bool} {exec : Nat → Int} {s : Gateway α (StorageState α)}
    (hdb : ∃ k < nrOfTries, initConnection k = true)
    (h : Reach (step (storageSetup initConnection exec)) (init StorageState.init) s) :
    s.acc .storagemgr = (s.processed .storagemgr).mapIdx fun i m => (m, insertSensor (exec i)) := by
  rw [acc_eq_foldl h (c := .storagemgr) (.inr hdb)]
  exact calls_eq_mapIdx exec _

/-- With a database, whatever the interleaving: as long as no call of `sqlite3_exec` has failed,
    nothing that left the buffer is unstored and nothing unstored has left it; and this is so in all
    runs exactly when no call fails. -/
theorem nothing_lost_iff [Inhabited α] (initConnection : Nat → Bool) (exec : Nat → Int)
    (hdb : ∃ k < nrOfTries, initConnection k = true) :
    (∀ s : Gateway α (StorageState α),
      Reach (step (storageSetup initConnection exec)) (init StorageState.init) s →
      (∀ n < List.length (s.acc .storagemgr), exec n = sqliteOk) → NothingLost s) ∧
    ((∀ s : Gateway α (StorageState α),
      Reach (step (storageSetup initConnection exec)) (init StorageState.init) s → NothingLost s) ↔
      ∀ n, exec n = sqliteOk) := by
  have hmade : ∀ s : Gateway α (StorageState α),
      Reach (step (storageSetup initConnection exec)) (init StorageState.init) s →
      (∀ n < List.length (s.acc .storagemgr), exec n = sqliteOk) → NothingLost s := by
    intro s hs hok
    rw [calls_eq hdb hs, List.length_mapIdx] at hok
    obtain ⟨hstored, hfailed⟩ := stored_of_ok hok
    unfold NothingLost
    rw [calls_eq hdb hs, hstored, hfailed]
    refine ⟨?_, by simp⟩
    rcases (roundInv_of_reach hs).processed_eq .storagemgr with hp | ⟨m, rest, -, hp⟩
    · rw [hp]
    · rw [hp]
      exact (List.sublist_append_left _ _).subperm
  refine ⟨hmade, fun h n => ?_, fun hok s hs => hmade s hs fun n _ => hok n⟩
  by_contra hn
  -- a run that removes `n + 1` measurements has lost the one of call `n`
  obtain ⟨s, hs, hr, he⟩ := reach_removed (storageSetup initConnection exec) hdb
    StorageState.init (List.replicate (n + 1) (default : α))
  have hp : s.processed .storagemgr = s.removed := by
    rcases (roundInv_of_reach hs).processed_eq .storagemgr with hp | ⟨m, rest, hb, -⟩
    · exact hp
    · rw [hr.buffer] at hb
      cases hb
  have hle := (h s hs).1.length_le
  rw [calls_eq hdb hs, hp] at hle
  have hlt := stored_length_lt hn (l := s.removed) (by rw [he]; simp)
  omega

/-- One measurement goes through a gateway whose first `sqlite3_exec` returns `rc`. -/
def firstExec (rc : Int) : Setup Nat (StorageState Nat) :=
  storageSetup (fun _ => true) fun n => if n = 0 then rc else sqliteOk

def oneRound : List (Action Nat) := .connmgrTest :: .initConnection :: round 7

theorem nothing_lost_iff_sample :
    ∃ s, run (step (firstExec sqliteOk)) (init StorageState.init) oneRound = some s ∧
      s.removed = [7] ∧ NothingLost s := by
  obtain ⟨s, hs⟩ : ∃ s,
      run (step (firstExec sqliteOk)) (init StorageState.init) oneRound = some s :=
    ⟨_, rfl⟩
  have h := (nothing_lost_iff (fun _ => true) (fun n => if n = 0 then sqliteOk else sqliteOk)
    ⟨0, by decide, rfl⟩).2.mpr (fun n => by simp) s (reachVia_of_runVia hs)
  obtain rfl : s = _ := (Option.some.inj hs).symm
  exact ⟨_, rfl, rfl, h⟩

/-- The first insert fails (`SQLITE_BUSY`): the measurement is removed all the same and is neither
    in the buffer nor in the database. -/
theorem nothing_lost_fails :
    ∃ s, Reach (step (firstExec 5)) (init StorageState.init) s ∧ s.removed = [7] ∧ s.buffer = [] ∧
      s.acc .storagemgr = [(7, (-1 : Int))] ∧ ¬ NothingLost s := by
  obtain ⟨s, hs⟩ : ∃ s, run (step (firstExec 5)) (init StorageState.init) oneRound = some s :=
    ⟨_, rfl⟩
  have hr := reachVia_of_runVia hs
  obtain rfl : s = _ := (Option.some.inj hs).symm
  refine ⟨_, hr, rfl, rfl, rfl, ?_⟩
  intro hn
  exact absurd hn.1.length_le (by decide)

end Gateway

end SensorGateway
