import SensorGateway.Gateway.Proofs.RoundProofs

/-!
# Exactly-once, in-order delivery to both consumers

Consequences of the round invariant for every reachable state: the buffer is a queue, each consumer
processes the inserted measurements in order and without gaps, and a measurement leaves the buffer
only when both consumers are through with it.
-/

namespace SensorGateway

open Transition

variable {α : Type} {σ : Consumer → Type}

namespace Gateway

variable {st : Setup α σ} {s s' : Gateway α σ}

/-- Each consumer has processed the removed measurements and at most the head of the buffer. -/
theorem RoundInv.processed_eq (h : s.RoundInv) (c : Consumer) :
    s.processed c = s.removed ∨ ∃ m rest, s.buffer = m :: rest ∧
      s.processed c = s.removed ++ [m] := by
  cases h.phase with
  | gather hg =>
    have := hg c
    unfold Gathering at this
    split at this
    · exact .inl this
    · exact .inl this
    · exact .inl this
    · exact .inl this
    · exact .inl this
    · exact .inl this.1
    · obtain ⟨m, rest, hb, -, hp⟩ := this
      exact .inr ⟨m, rest, hb, hp⟩
    · obtain ⟨m, rest, hb, -, hp⟩ := this
      exact .inr ⟨m, rest, hb, hp⟩
    · exact this.elim
    · exact this.elim
    · exact this.elim
  | removal d m rest hd ho hb hdd hp => exact .inr ⟨m, rest, hb, hp c⟩
  | leave hl hp => exact .inl (hp c)

theorem RoundInv.processed_prefix (h : s.RoundInv) (c : Consumer) :
    s.processed c <+: s.inserted := by
  rw [h.fifo]
  rcases h.processed_eq c with hp | ⟨m, rest, hb, hp⟩
  · rw [hp]
    exact List.prefix_append _ _
  · rw [hp, hb]
    exact ⟨rest, by simp⟩

theorem RoundInv.processed_length (h : s.RoundInv) (c d : Consumer) :
    (s.processed c).length ≤ (s.processed d).length + 1 := by
  have hc : (s.processed c).length ≤ s.removed.length + 1 := by
    rcases h.processed_eq c with hp | ⟨m, rest, -, hp⟩ <;> simp [hp]
  have hd : s.removed.length ≤ (s.processed d).length := by
    rcases h.processed_eq d with hp | ⟨m, rest, -, hp⟩ <;> simp [hp]
  omega

/-- What a step does to the removed sequence: nothing, unless it is the removal by the serial
    thread, which then holds the head that both consumers have processed. -/
theorem RoundInv.step_removed (h : s.RoundInv) {a : Action α} (hs : step st s a = some s') :
    s'.removed = s.removed ∨ ∃ c m rest, a = .remove c ∧ s.buffer = m :: rest ∧ s'.buffer = rest ∧
      s'.removed = s.removed ++ [m] ∧ (∀ d, s.processed d = s.removed ++ [m]) ∧
      s.data c = some m ∧ s'.data c = some m := by
  cases moves_of_step hs with
  | removeHead c m rest hc hb =>
    obtain ⟨-, m', rest', hb', hd, hp⟩ := h.removing hc
    obtain ⟨rfl, rfl⟩ : m = m' ∧ rest = rest' := by simpa [hb] using hb'
    exact .inr ⟨c, m, rest, rfl, hb, rfl, rfl, hp, hd, by simp⟩
  | _ => exact .inl rfl

/-- Exactly-once, in-order delivery in every reachable state, for any outcome of the database
    connection and any processing of the measurements. -/
theorem exactly_once_delivery (st : Setup α σ) (acc : (c : Consumer) → σ c) (s : Gateway α σ)
    (h : Reach (step st) (init acc) s) :
    s.inserted = s.removed ++ s.buffer ∧
    (∀ c, s.processed c <+: s.inserted) ∧
    (∀ c d, (s.processed c).length ≤ (s.processed d).length + 1) ∧
    (∀ a s', step st s a = some s' → s'.removed ≠ s.removed →
      ∃ c m rest, a = .remove c ∧ s.buffer = m :: rest ∧ s'.buffer = rest ∧
        s'.removed = s.removed ++ [m] ∧ (∀ d, s.processed d = s.removed ++ [m]) ∧
        s.data c = some m ∧ s'.data c = some m) := by
  have hi := roundInv_of_reach h
  refine ⟨hi.fifo, hi.processed_prefix, hi.processed_length, ?_⟩
  intro a s' hs hne
  exact (hi.step_removed hs).resolve_left hne

/-- One round on a database that connects at the first try: the storage manager is the serial
    thread, and a second measurement arrives in the middle of the round. -/
def sampleRound : List (Action Nat) :=
  [.connmgrTest, .initConnection, .sbufferInsert 7, .loopTest .datamgr, .sbufferGetData .datamgr,
    .loopTest .storagemgr, .sbufferGetData .storagemgr, .process .datamgr,
    .loopBarrier .datamgr .datamgr, .sbufferInsert 9, .process .storagemgr,
    .loopBarrier .storagemgr .storagemgr]

def sampleSetup : Setup Nat (fun _ => List Nat) where
  initConnection := fun _ => true
  process := fun _ m l => l ++ [m]

theorem exactly_once_delivery_sample :
    ∃ s s', run (step sampleSetup) (init fun _ => []) sampleRound = some s ∧
      step sampleSetup s (.remove .storagemgr) = some s' ∧ s'.removed = [7] ∧ s'.buffer = [9] ∧
      s.inserted = s.removed ++ s.buffer ∧ s.processed .datamgr <+: s.inserted ∧
      ∃ m, s'.removed = s.removed ++ [m] ∧ ∀ d, s.processed d = s.removed ++ [m] := by
  obtain ⟨s, hs⟩ : ∃ s, run (step sampleSetup) (init fun _ => []) sampleRound = some s := ⟨_, rfl⟩
  have h := exactly_once_delivery sampleSetup (fun _ => []) s (reachVia_of_runVia hs)
  obtain rfl : s = _ := (Option.some.inj hs).symm
  obtain ⟨-, m, -, -, -, -, hr, hp, -⟩ := h.2.2.2 (.remove .storagemgr) _ rfl (by decide)
  exact ⟨_, _, rfl, rfl, rfl, rfl, h.1, h.2.1 _, m, hr, hp⟩

end Gateway

end SensorGateway
