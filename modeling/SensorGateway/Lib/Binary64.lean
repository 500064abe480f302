import SensorGateway.Lib.DecimalPrefix

/-!
# Finite doubles and their fixed-point texts

A `double` is its 64 bits: a sign bit, an exponent field of 11 bits and a fraction field of 52 bits.
Its text with a fixed number of decimals is that of the exact value, rounded to the nearest, ties to
even.
-/

namespace Binary64

open Decimal

def exponentField (bits : UInt64) : Nat := bits.toNat / 2 ^ 52 % 2 ^ 11

def fractionField (bits : UInt64) : Nat := bits.toNat % 2 ^ 52

def negative (bits : UInt64) : Bool := 2 ^ 63 ≤ bits.toNat

/-- Neither an infinity nor a NaN. -/
structure Double where
  bits : UInt64
  finite : exponentField bits ≠ 2047
deriving DecidableEq, Repr

namespace Double

/-- With the leading bit, except that subnormal numbers have none. -/
def significand (x : Double) : Nat :=
  if exponentField x.bits = 0 then fractionField x.bits else 2 ^ 52 + fractionField x.bits

/-- The magnitude is `numerator / denominator`. -/
def numerator (x : Double) : Nat := x.significand * 2 ^ (max (exponentField x.bits) 1 - 1075)

def denominator (x : Double) : Nat := 2 ^ (1075 - max (exponentField x.bits) 1)

def value (x : Double) : ℚ :=
  (if negative x.bits then -1 else 1) * (x.numerator / x.denominator : ℚ)

/-- The magnitude in units of 10 to the power of `-places`. -/
def units (places : Nat) (x : Double) : Nat :=
  roundDiv (x.numerator * 10 ^ places) x.denominator

/-- What `printf` writes for `%.<places>f`. -/
def text (places : Nat) (x : Double) : List Char :=
  fixedText (negative x.bits) places (x.units places)

def sign (x : Double) : ℚ := if negative x.bits then -1 else 1

/-- The number that the text says. -/
def rounded (places : Nat) (x : Double) : ℚ := x.sign * (x.units places / 10 ^ places : ℚ)

/-- The length of the text in front of the point. -/
def wholeLength (places : Nat) (x : Double) : Nat :=
  Decimal.wholeLength (negative x.bits) places (x.units places)

/-- What the text says when it is cut off after `n` characters, in the whole part. -/
def cutWhole (places n : Nat) (x : Double) : ℚ :=
  Decimal.cutWhole (negative x.bits) places (x.units places) n

/-- What the text says when it is cut off after `n` characters. -/
def kept (places n : Nat) (x : Double) : ℚ :=
  if x.wholeLength places ≤ n then x.rounded places else x.cutWhole places n

theorem denominator_pos (x : Double) : 0 < x.denominator := by
  unfold denominator
  positivity

theorem significand_lt (x : Double) : x.significand < 2 ^ 53 := by
  have hfraction : fractionField x.bits < 2 ^ 52 := Nat.mod_lt _ (by positivity)
  unfold significand
  split_ifs <;> omega

theorem numerator_lt (x : Double) : x.numerator < 2 ^ 1024 := by
  have hsignificand := x.significand_lt
  have hexponent : exponentField x.bits < 2 ^ 11 := Nat.mod_lt _ (by positivity)
  have hfinite := x.finite
  have hshift : 53 + (max (exponentField x.bits) 1 - 1075) ≤ 1024 := by omega
  calc x.numerator < 2 ^ 53 * 2 ^ (max (exponentField x.bits) 1 - 1075) :=
        Nat.mul_lt_mul_of_pos_right hsignificand (by positivity)
    _ = 2 ^ (53 + (max (exponentField x.bits) 1 - 1075)) := (pow_add 2 53 _).symm
    _ ≤ 2 ^ 1024 := pow_le_pow_right₀ one_le_two hshift

/-- The text is that of the value rounded to so many decimals. -/
theorem roundsToPlaces_units (places : Nat) (x : Double) :
    RoundsToPlaces places x.value
      ((if negative x.bits then -1 else 1) * (x.units places / 10 ^ places : ℚ)) := by
  have hround := roundsTo_roundDiv (x.numerator * 10 ^ places) x.denominator_pos
  have hscale : ((x.numerator * 10 ^ places : ℕ) : ℚ) / x.denominator =
      x.numerator / x.denominator * 10 ^ places := by
    push_cast
    ring
  rw [hscale] at hround
  unfold RoundsToPlaces value units
  cases negative x.bits with
  | false =>
    refine ⟨(roundDiv (x.numerator * 10 ^ places) x.denominator : ℕ), ?_, ?_⟩
    · simp only [Bool.false_eq_true, if_false, one_mul]
      exact hround
    · simp
  | true =>
    refine ⟨-(roundDiv (x.numerator * 10 ^ places) x.denominator : ℕ), ?_, ?_⟩
    · simp only [if_true, neg_mul, one_mul]
      exact hround.neg
    · push_cast
      simp only [if_true]
      ring

/-- With six decimals, the text of any finite double has at most 317 characters. -/
theorem text_length_le (x : Double) : (x.text 6).length ≤ 317 := by
  apply @fixedText_length_le _ 6 _ 309 (by decide) (by decide)
  have hunits : x.units 6 ≤ x.numerator * 10 ^ 6 + 1 := by
    have hround := roundDiv_le (x.numerator * 10 ^ 6) x.denominator
    have hdiv := Nat.div_le_self (x.numerator * 10 ^ 6) x.denominator
    unfold units
    omega
  have hnumerator := x.numerator_lt
  have hpow : 2 ^ 1024 * 10 ^ 6 + 1 ≤ 10 ^ (309 + 6) := by decide +kernel
  calc x.units 6 ≤ x.numerator * 10 ^ 6 + 1 := hunits
    _ < 2 ^ 1024 * 10 ^ 6 + 1 :=
        Nat.add_lt_add_right (Nat.mul_lt_mul_of_pos_right hnumerator (by decide)) 1
    _ ≤ 10 ^ (309 + 6) := hpow

theorem isDecimalChar_of_mem_text {places : Nat} {x : Double} {c : Char} (h : c ∈ x.text places) :
    IsDecimalChar c :=
  isDecimalChar_of_mem_fixedText h

/-! ## Texts that are cut off -/

theorem numerator_lt_of_denominator {x : Double} (h : x.denominator ≠ 1) :
    x.numerator < 2 ^ 53 := by
  have hexponent : max (exponentField x.bits) 1 - 1075 = 0 := by
    by_contra hne
    apply h
    unfold denominator
    rw [show 1075 - max (exponentField x.bits) 1 = 0 by omega, pow_zero]
  unfold numerator
  rw [hexponent, pow_zero, mul_one]
  exact x.significand_lt

/-- A double whose whole part has more than 16 digits is a whole number. -/
theorem denominator_of_long {places : Nat} {x : Double}
    (h : 10 ^ 16 ≤ x.units places / 10 ^ places) : x.denominator = 1 := by
  by_contra hne
  have hnumerator := numerator_lt_of_denominator hne
  have hpow : 0 < 10 ^ places := by positivity
  have hround := roundDiv_le (x.numerator * 10 ^ places) x.denominator
  have hdiv := Nat.div_le_self (x.numerator * 10 ^ places) x.denominator
  have hle : x.numerator * 10 ^ places ≤ (2 ^ 53 - 1) * 10 ^ places :=
    Nat.mul_le_mul_right _ (by omega)
  have hlong : 10 ^ 16 * 10 ^ places ≤ x.units places :=
    (Nat.le_div_iff_mul_le hpow).mp h
  have hlt : (2 ^ 53 - 1) * 10 ^ places + 1 < 10 ^ 16 * 10 ^ places := by omega
  unfold units at hlong
  omega

/-- With a sign in front, 16 digits are left at least. -/
theorem long_of_wholeLength {places : Nat} {x : Double} (h : 18 ≤ x.wholeLength places) :
    10 ^ 16 ≤ x.units places / 10 ^ places := by
  by_contra hlt
  have hdigits := (natText_length_le_iff (by decide : 0 < 16)).mpr (not_le.mp hlt)
  unfold wholeLength Decimal.wholeLength at h
  split_ifs at h <;> omega

theorem units_of_whole {x : Double} (places : Nat) (h : x.denominator = 1) :
    x.units places = x.numerator * 10 ^ places := by
  unfold units roundDiv
  rw [h, Nat.mod_one, Nat.div_one]
  simp

theorem pow_dvd_units {x : Double} (places : Nat) (h : x.denominator = 1) :
    10 ^ places ∣ x.units places := by
  rw [units_of_whole places h]
  exact Dvd.intro_left _ rfl

theorem rounded_of_dvd {places : Nat} {x : Double} (h : 10 ^ places ∣ x.units places) :
    x.rounded places = x.sign * (x.units places / 10 ^ places : ℕ) := by
  unfold rounded
  rw [Nat.cast_div h (by positivity)]
  push_cast
  rfl

theorem sign_ne_zero (x : Double) : x.sign ≠ 0 := by
  unfold sign
  split_ifs <;> norm_num

/-- Without its last digits, a whole number is another one. -/
theorem cutWhole_ne_rounded {places n : Nat} {x : Double} (hn : 18 ≤ n)
    (h : n < x.wholeLength places) : x.cutWhole places n ≠ x.rounded places := by
  have hlong := long_of_wholeLength (by omega : 18 ≤ x.wholeLength places)
  have hsmaller : x.units places / 10 ^ places / 10 ^ (x.wholeLength places - n) <
      x.units places / 10 ^ places := by
    apply Nat.div_lt_self
    · exact lt_of_lt_of_le (by decide) hlong
    · exact Nat.one_lt_pow (by omega) (by decide)
  rw [rounded_of_dvd (pow_dvd_units places (denominator_of_long hlong))]
  intro heq
  have hwhole := mul_left_cancel₀ x.sign_ne_zero heq
  exact hsmaller.ne (Nat.cast_injective hwhole)

theorem text_length {places : Nat} (hplaces : 0 < places) (x : Double) :
    (x.text places).length = x.wholeLength places + places + 1 := by
  have hfrac := padText_length hplaces
    (Nat.mod_lt (x.units places) (by positivity : 0 < 10 ^ places))
  unfold text fixedText wholeLength Decimal.wholeLength
  cases negative x.bits <;> simp [hfrac] <;> omega

/-- Whatever is cut off, the rest of a long enough text is a number. -/
theorem parseNumber_take_text {places n : Nat} (hplaces : 0 < places) (hn : 18 + places ≤ n)
    (x : Double) : parseNumber ((x.text places).take n) = some (x.kept places n) := by
  have hlength := x.text_length hplaces
  by_cases hfits : (x.text places).length ≤ n
  · have hkept : x.kept places n = x.rounded places := if_pos (by omega)
    rw [List.take_of_length_le hfits, hkept]
    exact parseNumber_of_parseFixed (parseFixed_fixedText _ hplaces _)
  · have hlong := long_of_wholeLength (by omega : 18 ≤ x.wholeLength places)
    have hdvd := pow_dvd_units places (denominator_of_long hlong)
    unfold kept
    by_cases hlt : x.wholeLength places < n
    · rw [if_pos hlt.le]
      exact parseNumber_take_decimals (by omega) hlt hdvd
    · have hcut : parseNumber ((x.text places).take n) = some (x.cutWhole places n) :=
        parseNumber_take_whole (by omega) (not_lt.mp hlt)
      rw [hcut]
      split_ifs with hle
      · -- nothing but the point and the decimals is cut off
        have hzero : Decimal.wholeLength (negative x.bits) places (x.units places) - n = 0 :=
          Nat.sub_eq_zero_of_le hle
        unfold cutWhole Decimal.cutWhole
        rw [hzero, pow_zero, Nat.div_one, rounded_of_dvd hdvd]
        rfl
      · rfl

end Double

end Binary64
