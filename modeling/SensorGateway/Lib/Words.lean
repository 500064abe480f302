import Mathlib.Tactic

/-!
# Words of a text

The nonempty pieces of a text between its separators.
-/

namespace Words

variable {α : Type} [DecidableEq α] {sep : α}

def words (sep : α) (xs : List α) : List (List α) := (xs.splitOn sep).filter (· ≠ [])

theorem words_nil : words sep ([] : List α) = [] := rfl

theorem words_append_cons (xs ys : List α) :
    words sep (xs ++ sep :: ys) = words sep xs ++ words sep ys := by
  unfold words
  rw [List.splitOn_append_cons_self, List.filter_append]

theorem words_cons (xs : List α) : words sep (sep :: xs) = words sep xs :=
  words_append_cons [] xs

theorem words_eq_singleton {xs : List α} (hne : xs ≠ []) (h : sep ∉ xs) : words sep xs = [xs] := by
  unfold words
  rw [List.splitOn_eq_singleton h]
  exact List.filter_cons_of_pos (decide_eq_true hne)

/-- A word in front of the others. -/
theorem words_word_append {xs : List α} (hne : xs ≠ []) (h : sep ∉ xs) (ys : List α) :
    words sep (xs ++ sep :: ys) = xs :: words sep ys := by
  rw [words_append_cons, words_eq_singleton hne h]
  rfl

/-- The last word of a text that is cut off in it or behind it. -/
theorem words_take_last {xs : List α} (hne : xs ≠ []) (h : sep ∉ xs) {n : Nat} (hn : 0 < n) :
    words sep ((xs ++ [sep]).take n) = [xs.take n] := by
  by_cases hlen : n ≤ xs.length
  · rw [List.take_append_of_le_length hlen]
    apply words_eq_singleton
    · intro hnil
      rcases List.take_eq_nil_iff.mp hnil with rfl | hxs
      · exact absurd hn (lt_irrefl 0)
      · exact hne hxs
    · intro hmem
      exact h (List.mem_of_mem_take hmem)
  · rw [List.take_of_length_le (by simp; omega), List.take_of_length_le (by omega),
      words_word_append hne h, words_nil]

end Words
