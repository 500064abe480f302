import Mathlib.Logic.Relation
import Mathlib.Tactic.ByContra
import Mathlib.Tactic.SplitIfs

/-!
# Guarded runs of a deterministic-by-label transition function

A system is a partial function `step : σ → α → Option σ`: a label `a` that is not enabled in `s`
gives `none`. All nondeterminism sits in the choice of the label. A *guard* `G` restricts the runs
that are looked at: `ReachVia step G s₀ s` says that `s` is reached from `s₀` by steps whose source
state and label all satisfy `G`; the unrestricted runs are the ones with the trivial guard.
-/

namespace Transition

variable {σ α : Type*} {step : σ → α → Option σ} {G H : σ → α → Prop} {s₀ s s' : σ}

/-- One step whose source state and label satisfy the guard. -/
def StepVia (step : σ → α → Option σ) (G : σ → α → Prop) (s s' : σ) : Prop :=
  ∃ a, G s a ∧ step s a = some s'

/-- The states reached by runs all of whose steps satisfy the guard. -/
abbrev ReachVia (step : σ → α → Option σ) (G : σ → α → Prop) : σ → σ → Prop :=
  Relation.ReflTransGen (StepVia step G)

/-- The states reached by any run. -/
abbrev Reach (step : σ → α → Option σ) : σ → σ → Prop :=
  ReachVia step fun _ _ => True

/-- Run a list of labels; `none` as soon as one of them violates the guard or is not enabled. -/
def runVia (step : σ → α → Option σ) (G : σ → α → Prop) [∀ s a, Decidable (G s a)] :
    σ → List α → Option σ
  | s, [] => some s
  | s, a :: as => if G s a then (step s a).bind fun s' => runVia step G s' as else none

/-- Run a list of labels without a guard. -/
abbrev run (step : σ → α → Option σ) : σ → List α → Option σ := runVia step fun _ _ => True

theorem ReachVia.tail_step (h : ReachVia step G s₀ s) {a : α} (hG : G s a)
    (hs : step s a = some s') : ReachVia step G s₀ s' :=
  Relation.ReflTransGen.tail h ⟨a, hG, hs⟩

theorem ReachVia.mono (hGH : ∀ s a, G s a → H s a) (h : ReachVia step G s₀ s) :
    ReachVia step H s₀ s :=
  Relation.ReflTransGen.mono (fun _ _ ⟨a, hG, hs⟩ => ⟨a, hGH _ _ hG, hs⟩) _ _ h

theorem ReachVia.reach (h : ReachVia step G s₀ s) : Reach step s₀ s :=
  h.mono fun _ _ _ => trivial

/-- The invariant rule: what holds at the start and is kept by every guarded step holds in every
    state that a guarded run reaches. -/
theorem ReachVia.invariant {P : σ → Prop} (h : ReachVia step G s₀ s) (h0 : P s₀)
    (hstep : ∀ s a s', P s → G s a → step s a = some s' → P s') : P s := by
  induction h with
  | refl => exact h0
  | tail _ hs ih =>
    obtain ⟨a, hG, ha⟩ := hs
    exact hstep _ a _ ih hG ha

/-- The simulation rule: when every step of the first system is a step of the second one between the
    abstracted states, or does not show there, so is every run. -/
theorem ReachVia.simulates {τ β : Type*} {step' : τ → β → Option τ} (abs : σ → τ)
    (hstep : ∀ s a s', G s a → step s a = some s' →
      abs s' = abs s ∨ ∃ b, step' (abs s) b = some (abs s'))
    (h : ReachVia step G s₀ s) : Reach step' (abs s₀) (abs s) := by
  induction h with
  | refl => exact .refl
  | tail _ hs ih =>
    obtain ⟨a, hG, ha⟩ := hs
    rcases hstep _ a _ hG ha with heq | ⟨b, hb⟩
    · rw [heq]
      exact ih
    · exact ih.tail_step trivial hb

/-- The simulation rule for a relation: when every step from related states is matched, every run
    from related states ends in related states. -/
theorem ReachVia.relates {τ β : Type*} {step' : τ → β → Option τ} {R : σ → τ → Prop} {t₀ : τ}
    (h : ReachVia step G s₀ s) (h0 : R s₀ t₀)
    (hstep : ∀ s t a s', R s t → G s a → step s a = some s' →
      ∃ b t', step' t b = some t' ∧ R s' t') :
    ∃ t, Reach step' t₀ t ∧ R s t := by
  induction h with
  | refl => exact ⟨t₀, .refl, h0⟩
  | tail _ hs ih =>
    obtain ⟨t, hreach, hR⟩ := ih
    obtain ⟨a, hG, ha⟩ := hs
    obtain ⟨b, t', hb, hR'⟩ := hstep _ t a _ hR hG ha
    exact ⟨t', hreach.tail_step trivial hb, hR'⟩

/-- A list of labels that runs through is a run. -/
theorem reachVia_of_runVia [∀ s a, Decidable (G s a)] :
    ∀ {as : List α} {s : σ}, runVia step G s as = some s' → ReachVia step G s s'
  | [], s, h => by
    obtain rfl : s = s' := by simpa [runVia] using h
    exact .refl
  | a :: as, s, h => by
    rw [runVia] at h
    split_ifs at h with hG
    obtain ⟨t, ht, hrest⟩ := Option.bind_eq_some_iff.mp h
    exact .head ⟨a, hG, ht⟩ (reachVia_of_runVia hrest)

/-- The run rule: what relates the labels that were run to the state they lead to. -/
theorem run_invariant {P : List α → σ → Prop} {as : List α} (h0 : P [] s₀)
    (hstep : ∀ done s a s', P done s → step s a = some s' → P (done ++ [a]) s')
    (h : run step s₀ as = some s) : P as s := by
  have hrun : ∀ (as done : List α) (t : σ), P done t → run step t as = some s →
      P (done ++ as) s := by
    intro as
    induction as with
    | nil =>
      intro done t hP ht
      obtain rfl : t = s := by simpa [run, runVia] using ht
      simpa using hP
    | cons a as ih =>
      intro done t hP ht
      rw [run, runVia, if_pos trivial] at ht
      obtain ⟨u, hu, hrest⟩ := Option.bind_eq_some_iff.mp ht
      simpa using ih (done ++ [a]) u (hstep done t a u hP hu) hrest
  exact hrun as [] s₀ h0 h

/-! ## Properties of the states along a list of labels -/

/-- `P` holds in every state that the labels lead through. -/
def Along (step : σ → α → Option σ) (P : σ → Prop) : σ → List α → Prop
  | s, [] => P s
  | s, a :: as => P s ∧ ∀ s', step s a = some s' → Along step P s' as

/-- Every step that is taken satisfies the guard. -/
def Meets (step : σ → α → Option σ) (G : σ → α → Prop) : σ → List α → Prop
  | _, [] => True
  | s, a :: as => ∀ s', step s a = some s' → G s a ∧ Meets step G s' as

theorem meets_cons {a : α} {as : List α} (hs : step s a = some s') :
    Meets step G s (a :: as) ↔ G s a ∧ Meets step G s' as := by
  constructor
  · intro h
    exact h s' hs
  · intro h t ht
    obtain rfl : s' = t := Option.some.inj (hs.symm.trans ht)
    exact h

theorem Meets.mono (hGH : ∀ s a, G s a → H s a) :
    ∀ {as : List α} {s : σ}, Meets step G s as → Meets step H s as
  | [], _, _ => trivial
  | _ :: _, _, h => fun t ht => ⟨hGH _ _ (h t ht).1, (h t ht).2.mono hGH⟩

theorem Meets.append : ∀ {as bs : List α} {s : σ}, Meets step G s (as ++ bs) →
    Meets step G s as ∧ ∀ s', run step s as = some s' → Meets step G s' bs
  | [], bs, s, h => by
    refine ⟨trivial, ?_⟩
    intro s' hrun
    obtain rfl : s = s' := by simpa [run, runVia] using hrun
    exact h
  | a :: as, bs, s, h => by
    constructor
    · intro t ht
      exact ⟨(h t ht).1, (h t ht).2.append.1⟩
    · intro s' hrun
      rw [run, runVia, if_pos trivial] at hrun
      obtain ⟨t, ht, hrest⟩ := Option.bind_eq_some_iff.mp hrun
      exact (h t ht).2.append.2 s' hrest

/-- The exact guard of a property: steps that satisfy `G` keep an invariant that implies `P`, and a
    step that violates `G` breaks `P` at once. `L` restricts the labels that are looked at. -/
theorem along_iff_meets {P I : σ → Prop} {L : σ → α → Prop} (hP : ∀ s, I s → P s)
    (hkeep : ∀ s a s', I s → L s a → G s a → step s a = some s' → I s')
    (hbreak : ∀ s a s', I s → L s a → ¬ G s a → step s a = some s' → ¬ P s') :
    ∀ {as : List α} {s : σ}, I s → Meets step L s as → (Along step P s as ↔ Meets step G s as)
  | [], s, hI, _ => iff_of_true (hP s hI) trivial
  | a :: as, s, hI, hL => by
    constructor
    · rintro ⟨-, hnext⟩ s' hs
      have hG : G s a := by
        by_contra hG
        have hnot := hbreak s a s' hI (hL s' hs).1 hG hs
        cases as with
        | nil => exact hnot (hnext s' hs)
        | cons b bs => exact hnot (hnext s' hs).1
      have hI' := hkeep s a s' hI (hL s' hs).1 hG hs
      exact ⟨hG, (along_iff_meets hP hkeep hbreak hI' (hL s' hs).2).mp (hnext s' hs)⟩
    · intro hmeets
      refine ⟨hP s hI, ?_⟩
      intro s' hs
      have hI' := hkeep s a s' hI (hL s' hs).1 (hmeets s' hs).1 hs
      exact (along_iff_meets hP hkeep hbreak hI' (hL s' hs).2).mpr (hmeets s' hs).2

theorem meets_true : ∀ {as : List α} {s : σ}, Meets step (fun _ _ => True) s as
  | [], _ => trivial
  | _ :: _, _ => fun _ _ => ⟨trivial, meets_true⟩

end Transition
