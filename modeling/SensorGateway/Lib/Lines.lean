import Mathlib.Tactic

/-!
# Lines of bounded length

A reader that takes a stream apart into chunks: each ends with the first separator, or has the
greatest length that the reader takes. The division of a stream into such chunks is unique.
-/

namespace Lines

variable {α : Type} {sep : α} {n : Nat}

/-- A line: its only separator is the last element. -/
def IsLine (sep : α) (xs : List α) : Prop := ∃ body, xs = body ++ [sep] ∧ sep ∉ body

/-- A stream of whole lines. -/
def EndsLines (sep : α) (xs : List α) : Prop := xs = [] ∨ ∃ body, xs = body ++ [sep]

theorem IsLine.endsLines_append {ys : List α} (h : IsLine sep ys) (xs : List α) :
    EndsLines sep (xs ++ ys) := by
  obtain ⟨body, rfl, -⟩ := h
  exact .inr ⟨xs ++ body, (List.append_assoc _ _ _).symm⟩

variable [DecidableEq α]

/-- At most `n` elements from the front of a stream, up to the first separator, and the rest. -/
def takeLine (sep : α) : Nat → List α → List α × List α
  | 0, xs => ([], xs)
  | _ + 1, [] => ([], [])
  | n + 1, x :: xs =>
    if x = sep then ([x], xs)
    else
      let r := takeLine sep n xs
      (x :: r.1, r.2)

/-- The reader takes exactly this chunk, whatever follows it. -/
def Complete (sep : α) (n : Nat) (chunk : List α) : Prop :=
  chunk ≠ [] ∧ ∀ rest, takeLine sep n (chunk ++ rest) = (chunk, rest)

theorem takeLine_append (n : Nat) (xs : List α) :
    (takeLine sep n xs).1 ++ (takeLine sep n xs).2 = xs := by
  induction n generalizing xs with
  | zero => rfl
  | succ n ih =>
    cases xs with
    | nil => rfl
    | cons x xs =>
      unfold takeLine
      split_ifs
      · rfl
      · exact congrArg (x :: ·) (ih xs)

theorem takeLine_ne_nil (hn : 0 < n) {xs : List α} (hne : xs ≠ []) :
    (takeLine sep n xs).1 ≠ [] := by
  obtain ⟨n, rfl⟩ : ∃ k, n = k + 1 := ⟨n - 1, by omega⟩
  obtain ⟨x, xs, rfl⟩ := List.exists_cons_of_ne_nil hne
  unfold takeLine
  split_ifs <;> simp

theorem takeLine_of_notMem {body : List α} (h : sep ∉ body) (hn : body.length < n) (rest : List α) :
    takeLine sep n (body ++ sep :: rest) = (body ++ [sep], rest) := by
  induction body generalizing n with
  | nil =>
    obtain ⟨n, rfl⟩ : ∃ k, n = k + 1 := ⟨n - 1, by rw [List.length_nil] at hn; omega⟩
    simp [takeLine]
  | cons x body ih =>
    rw [List.mem_cons, not_or] at h
    rw [List.length_cons] at hn
    obtain ⟨n, rfl⟩ : ∃ k, n = k + 1 := ⟨n - 1, by omega⟩
    rw [List.cons_append, takeLine, if_neg (Ne.symm h.1), ih h.2 (by omega)]
    rfl

theorem takeLine_long {body : List α} (h : sep ∉ body) (hn : n ≤ body.length) (rest : List α) :
    takeLine sep n (body ++ rest) = (body.take n, body.drop n ++ rest) := by
  induction n generalizing body with
  | zero => rfl
  | succ n ih =>
    cases body with
    | nil => exact absurd hn (Nat.not_succ_le_zero n)
    | cons x body =>
      rw [List.mem_cons, not_or] at h
      rw [List.cons_append, takeLine, if_neg (Ne.symm h.1), ih h.2 (Nat.le_of_succ_le_succ hn)]
      rfl

/-- A line that is not too long is one chunk. -/
theorem IsLine.complete {xs : List α} (h : IsLine sep xs) (hn : xs.length ≤ n) :
    Complete sep n xs := by
  obtain ⟨body, rfl, hbody⟩ := h
  rw [List.length_append, List.length_singleton] at hn
  refine ⟨by simp, fun rest => ?_⟩
  rw [List.append_assoc]
  exact takeLine_of_notMem hbody (by omega) rest

/-- What the reader takes from a stream of lines is a line or has the greatest length. -/
theorem complete_takeLine (hn : 0 < n) {xs : List α} (hne : xs ≠ []) (hends : EndsLines sep xs) :
    Complete sep n (takeLine sep n xs).1 := by
  obtain ⟨body, rfl⟩ := hends.resolve_left hne
  -- the elements in front of the first separator
  obtain ⟨first, rest, hsplit, hfirst⟩ : ∃ first rest, body ++ [sep] = first ++ sep :: rest ∧
      sep ∉ first :=
    List.eq_append_cons_of_mem (List.mem_append_right _ (List.mem_singleton_self sep))
  rw [hsplit]
  by_cases hlen : first.length < n
  · rw [takeLine_of_notMem hfirst hlen]
    exact IsLine.complete ⟨first, rfl, hfirst⟩ (by simp; omega)
  · have htake : sep ∉ first.take n := fun hmem => hfirst (List.mem_of_mem_take hmem)
    have hlength : (first.take n).length = n := List.length_take_of_le (by omega)
    rw [takeLine_long hfirst (by omega)]
    constructor
    · intro hnil
      have hzero : (first.take n).length = 0 := congrArg List.length hnil
      omega
    · intro more
      rw [takeLine_long htake hlength.ge, List.take_of_length_le hlength.le,
        List.drop_of_length_le hlength.le]
      rfl

/-- The rest of a stream of lines is one. -/
theorem endsLines_rest {xs : List α} (hends : EndsLines sep xs) :
    EndsLines sep (takeLine sep n xs).2 := by
  rcases hends with rfl | ⟨body, hbody⟩
  · left
    cases n <;> rfl
  · have happend := @takeLine_append _ sep _ n xs
    rcases List.eq_nil_or_concat (takeLine sep n xs).2 with hnil | ⟨rest, last, hrest⟩
    · exact .inl hnil
    · right
      refine ⟨rest, ?_⟩
      rw [hrest, List.concat_eq_append] at happend ⊢
      rw [hbody, ← List.append_assoc] at happend
      rw [List.singleton_inj.mp (List.append_inj' happend rfl).2]

/-- The first chunk of a stream is its first line, or the beginning of a line that is too long. -/
theorem Complete.cases {chunk more body rest : List α} (hchunk : Complete sep n chunk)
    (hbody : sep ∉ body) (heq : chunk ++ more = body ++ sep :: rest) :
    (body.length < n ∧ chunk = body ++ [sep] ∧ more = rest) ∨
      (n ≤ body.length ∧ chunk = body.take n ∧ more = body.drop n ++ sep :: rest) := by
  have htake := hchunk.2 more
  rw [heq] at htake
  rcases Nat.lt_or_ge body.length n with hlen | hlen
  · left
    rw [takeLine_of_notMem hbody hlen] at htake
    obtain ⟨hline, hrest⟩ := Prod.mk.inj htake
    exact ⟨hlen, hline.symm, hrest.symm⟩
  · right
    rw [takeLine_long hbody hlen] at htake
    obtain ⟨hline, hrest⟩ := Prod.mk.inj htake
    exact ⟨hlen, hline.symm, hrest.symm⟩

/-- The division of a stream into chunks is unique. -/
theorem chunks_unique {cs ds : List (List α)} (hcs : ∀ c ∈ cs, Complete sep n c)
    (hds : ∀ d ∈ ds, Complete sep n d) (heq : cs.flatten = ds.flatten) : cs = ds := by
  induction cs generalizing ds with
  | nil =>
    cases ds with
    | nil => rfl
    | cons d ds =>
      have hnil : d = [] := (List.append_eq_nil_iff.mp heq.symm).1
      exact absurd hnil (hds d List.mem_cons_self).1
  | cons c cs ih =>
    cases ds with
    | nil =>
      have hnil : c = [] := (List.append_eq_nil_iff.mp heq).1
      exact absurd hnil (hcs c List.mem_cons_self).1
    | cons d ds =>
      rw [List.flatten_cons, List.flatten_cons] at heq
      have hc := (hcs c List.mem_cons_self).2 cs.flatten
      rw [heq, (hds d List.mem_cons_self).2 ds.flatten] at hc
      obtain ⟨rfl, hrest⟩ := Prod.mk.inj hc
      rw [ih (fun c hc => hcs c (List.mem_cons_of_mem _ hc))
        (fun d hd => hds d (List.mem_cons_of_mem _ hd)) hrest.symm]

/-- Two texts that agree and have their first separator in the same place agree up to it. -/
theorem append_cons_inj {a b x y : List α} (ha : sep ∉ a) (hb : sep ∉ b)
    (h : a ++ sep :: x = b ++ sep :: y) : a = b ∧ x = y := by
  have hlen : ∀ m, a.length < m → b.length < m → a ++ [sep] = b ++ [sep] ∧ x = y := by
    intro m hma hmb
    have htake := takeLine_of_notMem ha hma x
    rw [h, takeLine_of_notMem hb hmb y] at htake
    obtain ⟨hline, hrest⟩ := Prod.mk.inj htake
    exact ⟨hline.symm, hrest.symm⟩
  obtain ⟨hline, hrest⟩ := hlen (a.length + b.length + 1) (by omega) (by omega)
  exact ⟨(List.append_inj' hline rfl).1, hrest⟩

end Lines
