import Mathlib.Algebra.BigOperators.Group.List.Basic
import Mathlib.Algebra.CharZero.Defs
import Mathlib.Tactic.FieldSimp
import Mathlib.Tactic.Ring

/-!
# The mean of a sliding window

The mean of the last `n` values of a history that is written newest first, and the two formulas that
keep it up to date when a value arrives: while the window fills, and once it is full.
-/

namespace SlidingMean

section Window

variable {α : Type*} {xs : List α} {x : α} {n : Nat}

/-- The last `n` values of a history. -/
def window (n : Nat) (xs : List α) : List α := xs.take n

/-- A window that is not full takes the new value in. -/
theorem window_cons_of_lt (h : xs.length < n) : window n (x :: xs) = x :: window n xs := by
  rw [window, window, List.take_of_length_le (Nat.succ_le_of_lt h),
    List.take_of_length_le h.le]

/-- A full window drops its last value. -/
theorem window_cons_of_le (hn : 0 < n) (h : n ≤ xs.length) :
    window n (x :: xs) = x :: (window n xs).dropLast := by
  obtain ⟨n, rfl⟩ := Nat.exists_eq_succ_of_ne_zero hn.ne'
  rw [window, window, List.take_succ_cons, List.dropLast_eq_take, List.take_take, List.length_take,
    Nat.min_eq_left h]
  simp

end Window

variable {K : Type*} [Field K] [CharZero K] {xs : List K} {x : K}

def mean (xs : List K) : K := xs.sum / xs.length

theorem mean_mul_length (hne : xs ≠ []) : mean xs * xs.length = xs.sum :=
  div_mul_cancel₀ _ (by simpa using hne)

/-- The mean while the window fills. Before the first value there is no mean, and `a` is
    arbitrary. -/
theorem mean_cons {a : K} (ha : xs ≠ [] → a = mean xs) :
    mean (x :: xs) = (a * xs.length + x) / (xs.length + 1) := by
  have hsum : a * xs.length = xs.sum := by
    rcases eq_or_ne xs [] with rfl | hne
    · simp
    · rw [ha hne, mean_mul_length hne]
  rw [hsum, mean, List.sum_cons, List.length_cons, add_comm]
  push_cast
  ring

/-- The mean of a full window: the last value `y` leaves, `x` comes in. -/
theorem mean_cons_of_concat (y : K) :
    mean (x :: xs) = ((xs.length + 1) * mean (xs ++ [y]) - y + x) / (xs.length + 1) := by
  have hlen : (xs.length : K) + 1 ≠ 0 := Nat.cast_add_one_ne_zero _
  simp only [mean, List.sum_cons, List.length_cons, List.sum_append, List.sum_nil,
    List.length_append, List.length_nil, Nat.cast_add, Nat.cast_one, zero_add, add_zero]
  field_simp
  ring

end SlidingMean
