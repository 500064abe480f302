import SensorGateway.Lib.Transition
import Mathlib.Tactic

/-!
# Progress by a variant

A variant bounds, over runs of any schedule, the number of steps with certain labels that can be
taken before a stable property holds: until then these steps lower it and no other step raises it.
Where one of the labels is always enabled the property is also reached by such steps alone.
-/

namespace Transition

variable {σ α : Type*} {step : σ → α → Option σ} {s s' : σ}

/-- `μ` is a variant for the labels in `L` towards `P`, in the states that satisfy the invariant
    `I`. -/
structure Variant (step : σ → α → Option σ) (I P : σ → Prop) (L : α → Bool) (μ : σ → Nat) :
    Prop where
  keep : ∀ s a s', I s → step s a = some s' → I s'
  stable : ∀ s a s', I s → step s a = some s' → P s → P s'
  lower : ∀ s a s', I s → step s a = some s' → ¬ P s' → L a = true → μ s' < μ s
  other : ∀ s a s', I s → step s a = some s' → ¬ P s' → L a = false → μ s' ≤ μ s

theorem run_cons_eq_some {a : α} {as : List α} :
    run step s (a :: as) = some s' ↔ ∃ t, step s a = some t ∧ run step t as = some s' := by
  show (if True then _ else _) = some s' ↔ _
  rw [if_pos trivial, Option.bind_eq_some_iff]

variable {I P : σ → Prop} {L : α → Bool} {μ : σ → Nat}

theorem Variant.keep_run (h : Variant step I P L μ) :
    ∀ {as : List α} {s : σ}, I s → run step s as = some s' → I s'
  | [], s, hI, hrun => by
    obtain rfl : s = s' := by simpa [runVia] using hrun
    exact hI
  | a :: as, s, hI, hrun => by
    obtain ⟨t, ht, hrest⟩ := run_cons_eq_some.mp hrun
    exact h.keep_run (h.keep s a t hI ht) hrest

theorem Variant.stable_run (h : Variant step I P L μ) :
    ∀ {as : List α} {s : σ}, I s → run step s as = some s' → P s → P s'
  | [], s, _, hrun, hP => by
    obtain rfl : s = s' := by simpa [runVia] using hrun
    exact hP
  | a :: as, s, hI, hrun, hP => by
    obtain ⟨t, ht, hrest⟩ := run_cons_eq_some.mp hrun
    exact h.stable_run (h.keep s a t hI ht) hrest (h.stable s a t hI ht hP)

/-- The steps that a run takes before `P` holds are bounded by what they lower the variant. -/
theorem Variant.countP_le (h : Variant step I P L μ) :
    ∀ {as : List α} {s : σ}, I s → run step s as = some s' → ¬ P s' →
      as.countP L + μ s' ≤ μ s
  | [], s, _, hrun, _ => by
    obtain rfl : s = s' := by simpa [runVia] using hrun
    simp
  | a :: as, s, hI, hrun, hP => by
    obtain ⟨t, ht, hrest⟩ := run_cons_eq_some.mp hrun
    have hIt := h.keep s a t hI ht
    have hPt : ¬ P t := fun hp => hP (h.stable_run hIt hrest hp)
    have hle := h.countP_le hIt hrest hP
    by_cases ha : L a = true
    · have hlt := h.lower s a t hI ht hPt ha
      rw [List.countP_cons_of_pos ha]
      omega
    · have hother := h.other s a t hI ht hPt (by simpa using ha)
      rw [List.countP_cons_of_neg ha]
      omega

/-- Where one of the labels is enabled as long as `P` does not hold, such steps alone reach it. `A`
    is what these steps keep besides the invariant. -/
theorem Variant.exists_run (h : Variant step I P L μ) {A : σ → Prop}
    (hkeep : ∀ s a s', I s → A s → L a = true → step s a = some s' → A s')
    (henabled : ∀ s, I s → A s → ¬ P s → ∃ a s', L a = true ∧ step s a = some s') :
    ∀ {s : σ}, I s → A s → ∃ as s', run step s as = some s' ∧ (∀ a ∈ as, L a = true) ∧ P s' ∧ A s' ∧
      as.length ≤ μ s + 1 := by
  intro s
  induction hn : μ s using Nat.strong_induction_on generalizing s with
  | _ n ih =>
    intro hI hA
    by_cases hP : P s
    · exact ⟨[], s, rfl, by simp, hP, hA, by simp⟩
    · obtain ⟨a, t, ha, ht⟩ := henabled s hI hA hP
      have hAt := hkeep s a t hI hA ha ht
      by_cases hPt : P t
      · exact ⟨[a], t, run_cons_eq_some.mpr ⟨t, ht, rfl⟩, by simpa using ha, hPt, hAt, by simp⟩
      · have hlt := h.lower s a t hI ht hPt ha
        obtain ⟨as, s', hrun, hall, hP', hA', hlen⟩ :=
          ih (μ t) (hn ▸ hlt) rfl (h.keep s a t hI ht) hAt
        refine ⟨a :: as, s', run_cons_eq_some.mpr ⟨t, ht, hrun⟩, ?_, hP', hA', ?_⟩
        · intro b hb
          rcases List.mem_cons.mp hb with rfl | hb
          · exact ha
          · exact hall b hb
        · rw [List.length_cons]
          omega

end Transition
