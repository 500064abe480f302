import Mathlib.Data.List.TakeWhile
import SensorGateway.Lib.Decimal

/-!
# Decimal texts that are cut off

What a text that ends too early still says: the first digits of the number. A text with a point may
end right behind the point or with any number of decimals.
-/

namespace Decimal

/-! ## Literals -/

/-- A whole number, or one with a point and any number of digits behind it. -/
def parseUnsigned (cs : List Char) : Option ℚ :=
  match upTo '.' cs with
  | none => (parseNat cs).map Nat.cast
  | some (whole, frac) => do
    let w ← parseNat whole
    if frac.all Char.isDigit then some (w + Nat.ofDigitChars 10 frac 0 / 10 ^ frac.length) else none

def parseNumber (cs : List Char) : Option ℚ := parseSigned parseUnsigned cs

/-- A text of digits. -/
def Digits (cs : List Char) : Prop := ∀ c ∈ cs, c.isDigit = true

theorem digits_natText (n : Nat) : Digits (natText n) := fun _ => isDigit_of_mem_natText

theorem digits_padText (places n : Nat) :
    Digits (padText places n) := fun _ => isDigit_of_mem_padText

theorem Digits.take {cs : List Char} (h : Digits cs) (k : Nat) : Digits (cs.take k) :=
  fun c hc => h c (List.mem_of_mem_take hc)

theorem Digits.point_notMem {cs : List Char} (h : Digits cs) : '.' ∉ cs := by
  intro hmem
  exact absurd (h '.' hmem) (by decide)

theorem upTo_eq_none {c : Char} {cs : List Char} (h : c ∉ cs) : upTo c cs = none := by
  have hall := forall_ne_of_notMem h
  have hspan : cs.span (· ≠ c) = (cs, []) := by
    rw [List.span_eq_takeWhile_dropWhile, List.takeWhile_eq_self_iff.mpr hall,
      List.dropWhile_eq_nil_iff.mpr hall]
  unfold upTo
  rw [hspan]

theorem parseUnsigned_digits {cs : List Char} (hne : cs ≠ []) (h : Digits cs) :
    parseUnsigned cs = some (Nat.ofDigitChars 10 cs 0 : ℚ) := by
  unfold parseUnsigned
  rw [upTo_eq_none h.point_notMem, parseNat_eq_some hne h]
  rfl

theorem parseUnsigned_point {whole frac : List Char} (hne : whole ≠ []) (hwhole : Digits whole)
    (hfrac : Digits frac) :
    parseUnsigned (whole ++ '.' :: frac) =
      some (Nat.ofDigitChars 10 whole 0 + Nat.ofDigitChars 10 frac 0 / 10 ^ frac.length : ℚ) := by
  unfold parseUnsigned
  rw [upTo_append hwhole.point_notMem]
  show (do
    let w ← parseNat whole
    if frac.all Char.isDigit then
      some ((w : ℚ) + Nat.ofDigitChars 10 frac 0 / 10 ^ frac.length)
    else none) = _
  rw [parseNat_eq_some hne hwhole, Option.bind_eq_bind, Option.bind_some,
    if_pos (List.all_eq_true.mpr hfrac)]

/-! ## The first digits -/

theorem ofDigitChars_lt {cs : List Char} (h : Digits cs) :
    Nat.ofDigitChars 10 cs 0 < 10 ^ cs.length := by
  induction cs with
  | nil => decide
  | cons c cs ih =>
    have hdigit : c.toNat - '0'.toNat ≤ 9 := by
      have hc := h c List.mem_cons_self
      rw [Char.isDigit_iff_toNat] at hc
      have hnine : '9'.toNat = 57 := rfl
      have hzero : '0'.toNat = 48 := rfl
      omega
    have hrest := ih fun d hd => h d (List.mem_cons_of_mem c hd)
    rw [Nat.ofDigitChars_cons, Nat.mul_zero, Nat.zero_add, Nat.ofDigitChars_eq_ofDigitChars_zero,
      List.length_cons, pow_succ]
    calc 10 ^ cs.length * (c.toNat - '0'.toNat) + Nat.ofDigitChars 10 cs 0
        < 10 ^ cs.length * (c.toNat - '0'.toNat) + 10 ^ cs.length := Nat.add_lt_add_left hrest _
      _ = 10 ^ cs.length * (c.toNat - '0'.toNat + 1) := by ring
      _ ≤ 10 ^ cs.length * 10 := Nat.mul_le_mul_left _ (by omega)

/-- The first `k` digits of a number. -/
theorem ofDigitChars_take {cs : List Char} (h : Digits cs) (k : Nat) :
    Nat.ofDigitChars 10 (cs.take k) 0 = Nat.ofDigitChars 10 cs 0 / 10 ^ (cs.length - k) := by
  have hdrop : Nat.ofDigitChars 10 (cs.drop k) 0 < 10 ^ (cs.length - k) := by
    rw [← List.length_drop]
    exact ofDigitChars_lt fun c hc => h c (List.mem_of_mem_drop hc)
  have hsplit : Nat.ofDigitChars 10 cs 0 =
      10 ^ (cs.length - k) * Nat.ofDigitChars 10 (cs.take k) 0 +
        Nat.ofDigitChars 10 (cs.drop k) 0 := by
    conv_lhs => rw [← List.take_append_drop k cs, Nat.ofDigitChars_append,
      Nat.ofDigitChars_eq_ofDigitChars_zero, List.length_drop]
  rw [hsplit, Nat.mul_add_div (by positivity), Nat.div_eq_of_lt hdrop, Nat.add_zero]

theorem ofDigitChars_natText (n : Nat) : Nat.ofDigitChars 10 (natText n) 0 = n :=
  Nat.ofDigitChars_ten_toDigits

theorem ofDigitChars_padText (places n : Nat) : Nat.ofDigitChars 10 (padText places n) 0 = n := by
  unfold padText List.leftpad
  rw [Nat.ofDigitChars_append, Nat.ofDigitChars_replicate_zero, Nat.mul_zero]
  exact ofDigitChars_natText n

theorem parseNumber_intText (z : Int) : parseNumber (intText z) = some (z : ℚ) := by
  have hdigits : parseUnsigned (natText z.natAbs) = some (z.natAbs : ℚ) := by
    rw [parseUnsigned_digits (natText_ne_nil _) (digits_natText _), ofDigitChars_natText]
  unfold parseNumber intText
  by_cases hz : z < 0
  · rw [if_pos hz]
    show (parseUnsigned (natText z.natAbs)).map (- ·) = some (z : ℚ)
    rw [hdigits, Option.map_some, Nat.cast_natAbs, abs_of_neg hz]
    simp
  · rw [if_neg hz, parseSigned_of_digit, hdigits, Nat.cast_natAbs, abs_of_nonneg (not_lt.mp hz)]
    intro c hc
    rw [← List.append_nil (natText _)] at hc
    exact natText_head hc

/-! ## Fixed-point texts -/

/-- The length of the whole part, with the sign. -/
def wholeLength (negative : Bool) (places units : Nat) : Nat :=
  (if negative then 1 else 0) + (natText (units / 10 ^ places)).length

/-- The number whose whole part is cut off after `n` characters, the sign among them. -/
def cutWhole (negative : Bool) (places units n : Nat) : ℚ :=
  (if negative then -1 else 1) *
    (units / 10 ^ places / 10 ^ (wholeLength negative places units - n) : ℕ)

theorem parseSigned_mono {α : Type} [Neg α] {f g : List Char → Option α}
    (h : ∀ cs a, f cs = some a → g cs = some a) {cs : List Char} {a : α}
    (ha : parseSigned f cs = some a) : parseSigned g cs = some a := by
  unfold parseSigned at ha ⊢
  split at ha
  · obtain ⟨b, hb, rfl⟩ := Option.map_eq_some_iff.mp ha
    rw [h _ _ hb]
    rfl
  · exact h _ _ ha

theorem parseNumber_of_parseFixed {cs : List Char} {r : ℚ} (h : parseFixed cs = some r) :
    parseNumber cs = some r := by
  refine parseSigned_mono ?_ h
  intro cs a ha
  obtain ⟨⟨whole, frac⟩, hupTo, ha⟩ := Option.bind_eq_some_iff.mp ha
  obtain ⟨w, hw, ha⟩ := Option.bind_eq_some_iff.mp ha
  obtain ⟨f, hf, ha⟩ := Option.bind_eq_some_iff.mp ha
  unfold parseNat at hf
  split_ifs at hf with hdigits
  cases hf
  unfold parseUnsigned
  rw [hupTo]
  show (do
    let w ← parseNat whole
    if frac.all Char.isDigit then
      some ((w : ℚ) + Nat.ofDigitChars 10 frac 0 / 10 ^ frac.length)
    else none) = _
  rw [hw, Option.bind_eq_bind, Option.bind_some, if_pos hdigits.2]
  exact ha

/-- A fixed-point text is cut off as one without its sign. -/
theorem parseNumber_take_fixedText (negative : Bool) (places units : Nat) {n : Nat} (hn : 2 ≤ n) :
    parseNumber ((fixedText negative places units).take n) =
      (parseUnsigned ((fixedText false places units).take (n - if negative then 1 else 0))).map
        ((if negative then -1 else 1 : ℚ) * ·) := by
  cases negative with
  | true =>
    obtain ⟨n, rfl⟩ : ∃ k, n = k + 1 := ⟨n - 1, by omega⟩
    show Option.map (- ·) (parseUnsigned ((fixedText false places units).take n)) = _
    simp
  | false =>
    have hdigit : ∀ c, ((fixedText false places units).take n).head? = some c →
        c.isDigit = true := by
      intro c hc
      rw [List.head?_take, if_neg (by omega)] at hc
      exact head_fixedText_false hc
    unfold parseNumber
    rw [parseSigned_of_digit _ hdigit]
    simp

/-- Cut off in the whole part. -/
theorem parseNumber_take_whole {negative : Bool} {places units n : Nat} (hn : 2 ≤ n)
    (hle : n ≤ wholeLength negative places units) :
    parseNumber ((fixedText negative places units).take n) =
      some (cutWhole negative places units n) := by
  have hlen : n - (if negative then 1 else 0) ≤ (natText (units / 10 ^ places)).length := by
    unfold wholeLength at hle
    omega
  have hpos : n - (if negative then 1 else 0) ≠ 0 := by
    split_ifs <;> omega
  have hdropped : (natText (units / 10 ^ places)).length - (n - if negative then 1 else 0) =
      wholeLength negative places units - n := by
    unfold wholeLength
    split_ifs <;> omega
  have htake : (fixedText false places units).take (n - if negative then 1 else 0) =
      (natText (units / 10 ^ places)).take (n - if negative then 1 else 0) :=
    List.take_append_of_le_length hlen
  have hne : (natText (units / 10 ^ places)).take (n - if negative then 1 else 0) ≠ [] := by
    rw [Ne, List.take_eq_nil_iff]
    exact not_or.mpr ⟨hpos, natText_ne_nil _⟩
  rw [parseNumber_take_fixedText negative places units hn, htake,
    parseUnsigned_digits hne ((digits_natText _).take _), ofDigitChars_take (digits_natText _),
    ofDigitChars_natText, hdropped]
  rfl

/-- Cut off in the decimals of a whole number. -/
theorem parseNumber_take_decimals {negative : Bool} {places units n : Nat} (hn : 2 ≤ n)
    (hlt : wholeLength negative places units < n) (hdvd : 10 ^ places ∣ units) :
    parseNumber ((fixedText negative places units).take n) =
      some ((if negative then -1 else 1) * (units / 10 ^ places : ℚ)) := by
  have hlen : (natText (units / 10 ^ places)).length < n - (if negative then 1 else 0) := by
    unfold wholeLength at hlt
    omega
  obtain ⟨k, hk⟩ : ∃ k, n - (if negative then 1 else 0) =
      (natText (units / 10 ^ places)).length + (k + 1) :=
    ⟨n - (if negative then 1 else 0) - (natText (units / 10 ^ places)).length - 1, by omega⟩
  have htake : (fixedText false places units).take (n - if negative then 1 else 0) =
      natText (units / 10 ^ places) ++ '.' :: (padText places (units % 10 ^ places)).take k := by
    rw [hk]
    exact List.take_length_add_append (k + 1)
  have hwhole : ((units / 10 ^ places : ℕ) : ℚ) = units / 10 ^ places := by
    rw [Nat.cast_div hdvd (by positivity)]
    push_cast
    rfl
  rw [parseNumber_take_fixedText negative places units hn, htake,
    parseUnsigned_point (natText_ne_nil _) (digits_natText _) ((digits_padText _ _).take k),
    ofDigitChars_natText, ofDigitChars_take (digits_padText _ _), ofDigitChars_padText,
    Nat.mod_eq_zero_of_dvd hdvd, Nat.zero_div, hwhole]
  simp

end Decimal
