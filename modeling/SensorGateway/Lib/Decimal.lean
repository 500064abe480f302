import Mathlib.Tactic

/-!
# Decimal texts

The texts of natural numbers, integers and fixed-point numbers in base 10, how they are read back,
and the rounding to the nearest multiple of a power of ten, ties to even.
-/

namespace Decimal

/-! ## Texts -/

def natText (n : Nat) : List Char := Nat.toDigits 10 n

def intText (z : Int) : List Char :=
  if z < 0 then '-' :: natText z.natAbs else natText z.natAbs

/-- At least `places` digits. -/
def padText (places n : Nat) : List Char := (natText n).leftpad places '0'

/-- The number of `units` of 10 to the power of `-places`. -/
def fixedText (negative : Bool) (places units : Nat) : List Char :=
  (if negative then ['-'] else []) ++ natText (units / 10 ^ places) ++
    '.' :: padText places (units % 10 ^ places)

theorem natText_ne_nil (n : Nat) : natText n ≠ [] := Nat.toDigits_ne_nil

theorem isDigit_of_mem_natText {n : Nat} {c : Char} (h : c ∈ natText n) : c.isDigit = true :=
  Nat.isDigit_of_mem_toDigits (by decide) (by decide) h

theorem natText_length_le_iff {n k : Nat} (hk : 0 < k) : (natText n).length ≤ k ↔ n < 10 ^ k :=
  Nat.length_toDigits_le_iff (by decide) hk

theorem isDigit_of_mem_padText {places n : Nat} {c : Char} (h : c ∈ padText places n) :
    c.isDigit = true := by
  unfold padText List.leftpad at h
  rcases List.mem_append.mp h with h | h
  · rw [List.eq_of_mem_replicate h]
    decide
  · exact isDigit_of_mem_natText h

theorem padText_length {places n : Nat} (hplaces : 0 < places) (h : n < 10 ^ places) :
    (padText places n).length = places := by
  unfold padText
  rw [List.length_leftpad]
  exact max_eq_left ((natText_length_le_iff hplaces).mpr h)

/-- A character of a decimal text. -/
def IsDecimalChar (c : Char) : Prop := c.isDigit = true ∨ c = '-' ∨ c = '.'

/-- A separator is no character of a decimal text. -/
theorem notMem_of_isDecimalChar {cs : List Char} (h : ∀ c ∈ cs, IsDecimalChar c) {sep : Char}
    (hsep : ¬ IsDecimalChar sep) : sep ∉ cs :=
  fun hmem => hsep (h sep hmem)

theorem isDecimalChar_of_mem_intText {z : Int} {c : Char} (h : c ∈ intText z) :
    IsDecimalChar c := by
  unfold intText at h
  split_ifs at h
  · rcases List.mem_cons.mp h with rfl | h
    · exact .inr (.inl rfl)
    · exact .inl (isDigit_of_mem_natText h)
  · exact .inl (isDigit_of_mem_natText h)

theorem isDecimalChar_of_mem_fixedText {negative : Bool} {places units : Nat} {c : Char}
    (h : c ∈ fixedText negative places units) : IsDecimalChar c := by
  unfold fixedText at h
  rcases List.mem_append.mp h with h | h
  · rcases List.mem_append.mp h with h | h
    · split_ifs at h
      · exact .inr (.inl (List.mem_singleton.mp h))
      · simp at h
    · exact .inl (isDigit_of_mem_natText h)
  · rcases List.mem_cons.mp h with rfl | h
    · exact .inr (.inr rfl)
    · exact .inl (isDigit_of_mem_padText h)

/-- The text of a fixed-point number whose whole part has at most `k` digits. -/
theorem fixedText_length_le {negative : Bool} {places units k : Nat} (hplaces : 0 < places)
    (hk : 0 < k) (h : units < 10 ^ (k + places)) :
    (fixedText negative places units).length ≤ k + places + 2 := by
  have hpow : 0 < 10 ^ places := by positivity
  have hwhole : (natText (units / 10 ^ places)).length ≤ k := by
    rw [natText_length_le_iff hk, Nat.div_lt_iff_lt_mul hpow, ← pow_add]
    exact h
  have hfrac := padText_length hplaces (Nat.mod_lt units hpow)
  unfold fixedText
  cases negative <;> simp [hfrac] <;> omega

/-! ## Reading -/

def parseNat (cs : List Char) : Option Nat :=
  if cs ≠ [] ∧ cs.all Char.isDigit then some (Nat.ofDigitChars 10 cs 0) else none

/-- A number with a sign in front of it, if it is negative. -/
def parseSigned {α : Type} [Neg α] (parse : List Char → Option α) : List Char → Option α
  | '-' :: cs => (parse cs).map (- ·)
  | cs => parse cs

def parseInt (cs : List Char) : Option Int :=
  parseSigned (fun cs => (parseNat cs).map Int.ofNat) cs

/-- The text in front of the first `c` and the text behind it. -/
def upTo (c : Char) (cs : List Char) : Option (List Char × List Char) :=
  match cs.span (· ≠ c) with
  | (front, _ :: rest) => some (front, rest)
  | (_, []) => none

def parseFixed (cs : List Char) : Option ℚ :=
  parseSigned (fun cs => do
    let (whole, frac) ← upTo '.' cs
    let w ← parseNat whole
    let f ← parseNat frac
    some (w + f / 10 ^ frac.length)) cs

theorem parseNat_eq_some {cs : List Char} (hne : cs ≠ []) (h : ∀ c ∈ cs, c.isDigit = true) :
    parseNat cs = some (Nat.ofDigitChars 10 cs 0) := by
  unfold parseNat
  rw [if_pos ⟨hne, List.all_eq_true.mpr h⟩]

theorem parseNat_natText (n : Nat) : parseNat (natText n) = some n := by
  rw [parseNat_eq_some (natText_ne_nil n) fun c h => isDigit_of_mem_natText h]
  exact congrArg some Nat.ofDigitChars_ten_toDigits

theorem parseNat_padText {places n : Nat} : parseNat (padText places n) = some n := by
  have hne : padText places n ≠ [] := by
    unfold padText List.leftpad
    simp [natText_ne_nil]
  rw [parseNat_eq_some hne fun c h => isDigit_of_mem_padText h]
  unfold padText List.leftpad
  rw [Nat.ofDigitChars_append, Nat.ofDigitChars_replicate_zero, Nat.mul_zero]
  exact congrArg some Nat.ofDigitChars_ten_toDigits

theorem parseSigned_of_digit {α : Type} [Neg α] (parse : List Char → Option α) {cs : List Char}
    (h : ∀ c, cs.head? = some c → c.isDigit = true) : parseSigned parse cs = parse cs := by
  unfold parseSigned
  split
  · next cs =>
    have hdigit := h '-' rfl
    exact absurd hdigit (by decide)
  · rfl

theorem natText_head {n : Nat} {c : Char} {rest : List Char}
    (h : (natText n ++ rest).head? = some c) : c.isDigit = true := by
  rw [List.head?_append_of_ne_nil _ (natText_ne_nil n)] at h
  exact isDigit_of_mem_natText (List.mem_of_mem_head? h)

theorem parseInt_intText (z : Int) : parseInt (intText z) = some z := by
  unfold parseInt intText
  by_cases hz : z < 0
  · rw [if_pos hz]
    show ((parseNat (natText z.natAbs)).map Int.ofNat).map (- ·) = some z
    rw [parseNat_natText, Option.map_some, Option.map_some]
    congr 1
    show -(z.natAbs : Int) = z
    omega
  · rw [if_neg hz, parseSigned_of_digit]
    · rw [parseNat_natText, Option.map_some]
      congr 1
      show (z.natAbs : Int) = z
      omega
    · intro c hc
      rw [← List.append_nil (natText _)] at hc
      exact natText_head hc

theorem forall_ne_of_notMem {c : Char} {cs : List Char} (h : c ∉ cs) :
    ∀ d ∈ cs, decide (d ≠ c) = true := by
  intro d hd
  rw [decide_eq_true_iff]
  rintro rfl
  exact h hd

theorem upTo_append {c : Char} {front : List Char} (h : c ∉ front) (rest : List Char) :
    upTo c (front ++ c :: rest) = some (front, rest) := by
  have hfront := forall_ne_of_notMem h
  have hspan : (front ++ c :: rest).span (· ≠ c) = (front, c :: rest) := by
    rw [List.span_eq_takeWhile_dropWhile, List.takeWhile_append_of_pos hfront,
      List.dropWhile_append_of_pos hfront]
    simp
  unfold upTo
  rw [hspan]

theorem point_notMem_natText (n : Nat) : '.' ∉ natText n := by
  intro h
  exact absurd (isDigit_of_mem_natText h) (by decide)

theorem parseFixed_neg {cs : List Char} (h : ∀ c, cs.head? = some c → c.isDigit = true) :
    parseFixed ('-' :: cs) = (parseFixed cs).map (- ·) := by
  unfold parseFixed
  rw [parseSigned_of_digit _ h]
  rfl

theorem div_add_mod_div (n : Nat) {d : Nat} (hd : 0 < d) :
    ((n / d : ℕ) : ℚ) + ((n % d : ℕ) : ℚ) / d = n / d := by
  have hd' : (d : ℚ) ≠ 0 := by exact_mod_cast hd.ne'
  have hdiv : ((d * (n / d) + n % d : ℕ) : ℚ) = n := by rw [Nat.div_add_mod]
  push_cast at hdiv
  field_simp
  linarith

theorem head_fixedText_false {places units : Nat} {c : Char}
    (h : (fixedText false places units).head? = some c) : c.isDigit = true :=
  natText_head h

theorem parseFixed_fixedText_false {places : Nat} (hplaces : 0 < places) (units : Nat) :
    parseFixed (fixedText false places units) = some (units / 10 ^ places : ℚ) := by
  have hpow : 0 < 10 ^ places := by positivity
  have hlen := padText_length hplaces (Nat.mod_lt units hpow)
  have hvalue := div_add_mod_div units hpow
  push_cast at hvalue
  unfold parseFixed
  rw [parseSigned_of_digit _ fun c => head_fixedText_false]
  show (upTo '.'
    (natText (units / 10 ^ places) ++ '.' :: padText places (units % 10 ^ places)) >>= _) = _
  rw [upTo_append (point_notMem_natText _)]
  show (do
    let w ← parseNat (natText (units / 10 ^ places))
    let f ← parseNat (padText places (units % 10 ^ places))
    some ((w : ℚ) + f / 10 ^ (padText places (units % 10 ^ places)).length)) = _
  rw [parseNat_natText, parseNat_padText, hlen]
  exact congrArg some hvalue

/-- A fixed-point text is read back as the multiple of its unit. -/
theorem parseFixed_fixedText (negative : Bool) {places : Nat} (hplaces : 0 < places) (units : Nat) :
    parseFixed (fixedText negative places units) =
      some ((if negative then -1 else 1) * (units / 10 ^ places : ℚ)) := by
  cases negative with
  | true =>
    show parseFixed ('-' :: fixedText false places units) = _
    rw [parseFixed_neg fun c => head_fixedText_false, parseFixed_fixedText_false hplaces,
      Option.map_some]
    simp
  | false =>
    rw [parseFixed_fixedText_false hplaces]
    simp

/-! ## Rounding -/

/-- `z` is the integer nearest to `q`, the even one of two. -/
def RoundsTo (q : ℚ) (z : ℤ) : Prop := |q - z| ≤ 1 / 2 ∧ (|q - z| = 1 / 2 → Even z)

/-- `r` is the multiple of 10 to the power of `-places` nearest to `q`, ties to even. -/
def RoundsToPlaces (places : Nat) (q r : ℚ) : Prop :=
  ∃ z : ℤ, RoundsTo (q * 10 ^ places) z ∧ r = z / 10 ^ places

/-- `n / d` to the nearest integer, ties to even. -/
def roundDiv (n d : Nat) : Nat :=
  if 2 * (n % d) < d then n / d
  else if 2 * (n % d) > d then n / d + 1
  else if (n / d) % 2 = 0 then n / d
  else n / d + 1

/-- A multiple that is greater than the rounded number is greater than the number itself, and the
    other way round except for the number's own multiple. -/
theorem RoundsToPlaces.lt_iff_lt_iff {places : Nat} {q r : ℚ} (h : RoundsToPlaces places q r)
    (m : ℤ) :
    ((r < m / 10 ^ places ↔ q < m / 10 ^ places) ↔ (q < r → (m / 10 ^ places : ℚ) ≠ r)) := by
  obtain ⟨z, hz, rfl⟩ := h
  have hpow : (0 : ℚ) < 10 ^ places := by positivity
  have hnear := abs_le.mp hz.1
  rw [div_lt_div_iff_of_pos_right hpow, lt_div_iff₀ hpow, lt_div_iff₀ hpow, Ne,
    div_left_inj' hpow.ne', Int.cast_lt, Int.cast_inj]
  constructor
  · intro hiff hlt heq
    rw [heq] at hiff
    exact lt_irrefl z (hiff.mpr hlt)
  · intro hne
    constructor
    · intro hlt
      have hsucc : (z : ℚ) + 1 ≤ m := by exact_mod_cast hlt
      linarith
    · intro hlt
      have hle : z ≤ m := by
        have hprev : (z : ℚ) - 1 < m := by linarith
        have hprev' : z - 1 < m := by exact_mod_cast hprev
        omega
      refine lt_of_le_of_ne hle fun heq => ?_
      rw [heq] at hne
      exact hne hlt rfl

theorem RoundsTo.neg {q : ℚ} {z : ℤ} (h : RoundsTo q z) : RoundsTo (-q) (-z) := by
  have habs : |-q - ((-z : ℤ) : ℚ)| = |q - z| := by
    rw [← abs_neg]
    push_cast
    congr 1
    ring
  unfold RoundsTo
  rw [habs]
  exact ⟨h.1, fun heq => (h.2 heq).neg⟩

theorem roundsTo_floor {q : ℤ} {x : ℚ} (h0 : 0 ≤ x) (h : x ≤ 1 / 2) (heven : x = 1 / 2 → Even q) :
    RoundsTo (q + x) q := by
  unfold RoundsTo
  rw [add_sub_cancel_left, abs_of_nonneg h0]
  exact ⟨h, heven⟩

theorem roundsTo_succ {q : ℤ} {x : ℚ} (h : 1 / 2 ≤ x) (h1 : x ≤ 1)
    (heven : x = 1 / 2 → Even (q + 1)) : RoundsTo (q + x) (q + 1) := by
  have habs : |(q : ℚ) + x - ((q + 1 : ℤ) : ℚ)| = 1 - x := by
    push_cast
    rw [add_sub_add_left_eq_sub, abs_of_nonpos (by linarith)]
    ring
  unfold RoundsTo
  rw [habs]
  exact ⟨by linarith, fun heq => heven (by linarith)⟩

theorem roundsTo_roundDiv (n : Nat) {d : Nat} (hd : 0 < d) :
    RoundsTo ((n : ℚ) / d) (roundDiv n d : ℕ) := by
  have hd' : (0 : ℚ) < d := by exact_mod_cast hd
  have hsplit : (n : ℚ) / d = ((n / d : ℕ) : ℤ) + ((n % d : ℕ) : ℚ) / d := by
    rw [Int.cast_natCast]
    exact (div_add_mod_div n hd).symm
  have hlt := Nat.mod_lt n hd
  -- the remainder against one half
  have hhalf : ∀ r : Nat, ((r : ℚ) / d ≤ 1 / 2 ↔ 2 * r ≤ d) ∧
      (1 / 2 ≤ (r : ℚ) / d ↔ d ≤ 2 * r) := by
    intro r
    rw [div_le_div_iff₀ hd' two_pos, div_le_div_iff₀ two_pos hd']
    constructor
    · rw [one_mul, mul_comm (r : ℚ)]
      exact_mod_cast Iff.rfl
    · rw [one_mul, mul_comm (r : ℚ)]
      exact_mod_cast Iff.rfl
  have htie : ∀ {p : Prop}, (2 * (n % d) = d → p) → ((n % d : ℕ) : ℚ) / d = 1 / 2 → p := by
    intro p hp heq
    have hle := (hhalf (n % d)).1.mp heq.le
    have hge := (hhalf (n % d)).2.mp heq.ge
    exact hp (by omega)
  rw [hsplit]
  generalize hq : n / d = q
  have hbelow : 2 * (n % d) ≤ d → (2 * (n % d) = d → Even (q : ℤ)) →
      RoundsTo (((q : ℕ) : ℤ) + ((n % d : ℕ) : ℚ) / d) q := by
    intro hle heven
    exact roundsTo_floor (by positivity) ((hhalf _).1.mpr hle) (htie heven)
  have habove : d ≤ 2 * (n % d) → (2 * (n % d) = d → Even ((q : ℤ) + 1)) →
      RoundsTo (((q : ℕ) : ℤ) + ((n % d : ℕ) : ℚ) / d) (q + 1 : ℕ) := by
    intro hge heven
    push_cast
    apply roundsTo_succ ((hhalf _).2.mpr hge) _ (htie heven)
    rw [div_le_one hd']
    exact_mod_cast hlt.le
  unfold roundDiv
  rw [hq]
  split_ifs with hlow hhigh hparity
  · exact hbelow (by omega) (by omega)
  · exact habove (by omega) (by omega)
  · refine hbelow (by omega) fun _ => ?_
    rw [Int.even_iff]
    omega
  · refine habove (by omega) fun _ => ?_
    rw [Int.even_iff]
    omega

theorem roundDiv_le (n d : Nat) : roundDiv n d ≤ n / d + 1 := by
  unfold roundDiv
  split_ifs <;> omega

end Decimal
