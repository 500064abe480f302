import Mathlib.Data.Finset.Card
import Mathlib.Data.Finset.Range
import Mathlib.Logic.Function.Basic

/-!
# A heap of nodes addressed by nullable pointers

Loads, stores and releases can fault; `malloc` is any allocator that hands out an address that is
not in use, so that an address may come back after it was freed. A loop over the heap takes fuel and
faults with `Fault.diverges` when it runs out of it.
-/

namespace PtrHeap

/-- A pointer; `none` is NULL. -/
abbrev Ptr := Option Nat

inductive Fault where
  | nullDeref
  | dangling
  | assertFailed
  | diverges
deriving DecidableEq, Repr

/-- The allocated cells. All of them lie below `bound`. -/
structure Heap (N : Type*) where
  cells : Nat → Option N
  bound : Nat
  cells_of_bound_le : ∀ a, bound ≤ a → cells a = none

variable {N : Type*}

namespace Heap

def empty : Heap N where
  cells := fun _ => none
  bound := 0
  cells_of_bound_le := fun _ _ => rfl

def write (h : Heap N) (a : Nat) (n : N) : Heap N where
  cells := Function.update h.cells a (some n)
  bound := max h.bound (a + 1)
  cells_of_bound_le := fun b hb => by
    rw [Function.update_of_ne (by omega)]
    exact h.cells_of_bound_le b (by omega)

def erase (h : Heap N) (a : Nat) : Heap N where
  cells := Function.update h.cells a none
  bound := h.bound
  cells_of_bound_le := fun b hb => by
    rcases eq_or_ne b a with rfl | hne
    · exact Function.update_self ..
    · rw [Function.update_of_ne hne]
      exact h.cells_of_bound_le b hb

/-- `*p` -/
def load (h : Heap N) : Ptr → Except Fault N
  | none => .error .nullDeref
  | some a =>
    match h.cells a with
    | none => .error .dangling
    | some n => .ok n

/-- An assignment to fields of `*p`. -/
def modify (h : Heap N) (p : Ptr) (f : N → N) : Except Fault (Heap N) :=
  match p with
  | none => .error .nullDeref
  | some a =>
    match h.cells a with
    | none => .error .dangling
    | some n => .ok (h.write a (f n))

/-- `free(p)`; `free(NULL)` does nothing. -/
def free (h : Heap N) : Ptr → Except Fault (Heap N)
  | none => .ok h
  | some a =>
    match h.cells a with
    | none => .error .dangling
    | some _ => .ok (h.erase a)

variable {h : Heap N} {a b : Nat} {n : N}

@[simp] theorem write_cells_self : (h.write a n).cells a = some n := by simp [write]

@[simp] theorem write_cells_of_ne (hne : b ≠ a) : (h.write a n).cells b = h.cells b := by
  simp [write, hne]

@[simp] theorem erase_cells_of_ne (hne : b ≠ a) : (h.erase a).cells b = h.cells b := by
  simp [erase, hne]

theorem load_some (ha : h.cells a = some n) : h.load (some a) = .ok n := by simp [load, ha]

theorem lt_bound (ha : h.cells a = some n) : a < h.bound := by
  by_contra hle
  rw [h.cells_of_bound_le a (by omega)] at ha
  cases ha

/-- Distinct allocated addresses are at most `bound` many. -/
theorem length_le_bound {as : List Nat} (hnd : as.Nodup) (ha : ∀ a ∈ as, h.cells a ≠ none) :
    as.length ≤ h.bound := by
  have hsub : as.toFinset ⊆ Finset.range h.bound := fun a hmem => by
    obtain ⟨n, hn⟩ := Option.ne_none_iff_exists'.mp (ha a (List.mem_toFinset.mp hmem))
    exact Finset.mem_range.mpr (lt_bound hn)
  have hcard := Finset.card_le_card hsub
  rwa [List.toFinset_card_of_nodup hnd, Finset.card_range] at hcard

end Heap

/-- `malloc`, taken to succeed: it returns an address that is not in use. -/
structure Allocator (N : Type*) where
  malloc : Heap N → Nat
  malloc_unused : ∀ h : Heap N, h.cells (malloc h) = none

/-- Never reuses an address. -/
def Allocator.bump : Allocator N where
  malloc := Heap.bound
  malloc_unused := fun h => h.cells_of_bound_le _ le_rfl

/-- `assert(p)` -/
def assertThat (p : Prop) [Decidable p] : Except Fault Unit :=
  if p then .ok () else .error .assertFailed

/-- The rest of a block after a statement that did not fault. -/
@[simp] theorem ok_bind {α β : Type _} (x : α) (f : α → Except Fault β) :
    (Except.ok x >>= f) = f x := rfl

theorem bind_eq_ok {α β : Type _} {x : Except Fault α} {f : α → Except Fault β} {r : β}
    (h : (x >>= f) = .ok r) : ∃ a, x = .ok a ∧ f a = .ok r := by
  cases x with
  | error e => cases h
  | ok a => exact ⟨a, rfl, h⟩

namespace Heap

variable {N : Type*} {h h' : Heap N} {a : Nat} {p : Ptr} {f : N → N}

/-- An assignment to fields allocates nothing and releases nothing. -/
theorem modify_eq_none_iff (hm : h.modify p f = .ok h') (b : Nat) :
    h'.cells b = none ↔ h.cells b = none := by
  unfold modify at hm
  split at hm
  · cases hm
  · rename_i a
    split at hm
    · cases hm
    · rename_i n ha
      obtain rfl := Except.ok.inj hm
      by_cases hba : b = a
      · rw [hba, write_cells_self, ha]
        simp
      · rw [write_cells_of_ne hba]

theorem eq_erase_of_free (hf : h.free (some a) = .ok h') : h' = h.erase a := by
  cases ha : h.cells a with
  | none =>
    simp only [free, ha] at hf
    cases hf
  | some n =>
    simp only [free, ha] at hf
    exact (Except.ok.inj hf).symm

theorem erase_eq_none_iff (b : Nat) : (h.erase a).cells b = none ↔ b = a ∨ h.cells b = none := by
  by_cases hba : b = a
  · simp [hba, erase]
  · rw [erase_cells_of_ne hba]
    simp [hba]

theorem write_ne_none_iff (b : Nat) :
    (h.write a n).cells b ≠ none ↔ b = a ∨ h.cells b ≠ none := by
  by_cases hba : b = a
  · simp [hba]
  · rw [write_cells_of_ne hba]
    simp [hba]

/-- `free` of NULL or of an allocated block. -/
theorem exists_free (hp : ∀ a, p = some a → h.cells a ≠ none) :
    ∃ h', h.free p = .ok h' ∧ ∀ b, h'.cells b ≠ none ↔ p ≠ some b ∧ h.cells b ≠ none := by
  cases p with
  | none => exact ⟨h, rfl, by simp⟩
  | some a =>
    obtain ⟨n, hn⟩ := Option.ne_none_iff_exists'.mp (hp a rfl)
    refine ⟨h.erase a, by simp [free, hn], ?_⟩
    intro b
    rw [Ne, erase_eq_none_iff, not_or, Ne, Option.some_inj, eq_comm]

/-- The last write counts. -/
theorem write_write (n n' : N) : (h.write a n).write a n' = h.write a n' := by
  simp [write]

/-- A block that is freed again leaves no trace. -/
theorem write_erase_cells (ha : h.cells a = none) (n : N) :
    ((h.write a n).erase a).cells = h.cells := by
  simp only [erase, write, Function.update_idem]
  exact Function.update_eq_self_iff.mpr ha.symm

end Heap

end PtrHeap
