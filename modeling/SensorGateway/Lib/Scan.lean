import SensorGateway.Lib.DecimalPrefix

/-!
# Scanning whole numbers

A scanner that skips white space and reads a whole number with or without a sign, as far as its
digits go. Nothing is put back: a sign without digits is gone.
-/

namespace Scan

open Decimal

def isSpace (c : Char) : Bool := c = ' ' || ('\t' ≤ c && c ≤ '\r')

def isSign (c : Char) : Bool := c = '-' || c = '+'

/-- Whether a minus sign comes first, and the text behind the sign. -/
def takeSign : List Char → Bool × List Char
  | c :: cs => if isSign c then (c = '-', cs) else (false, c :: cs)
  | [] => (false, [])

/-- The number, when there is one, and what is left of the text. -/
def scanInt (cs : List Char) : Option Int × List Char :=
  let (negative, cs) := takeSign (cs.dropWhile isSpace)
  let digits := cs.takeWhile Char.isDigit
  let rest := cs.dropWhile Char.isDigit
  if digits = [] then (none, rest)
  else
    let n : Int := Nat.ofDigitChars 10 digits 0
    (some (if negative then -n else n), rest)

/-- What `strtol` makes of a number. -/
def toLong (z : Int) : Int := max (-2 ^ 63) (min (2 ^ 63 - 1) z)

/-- `atoi` -/
def atoi (cs : List Char) : Int := (Int32.ofInt (toLong ((scanInt cs).1.getD 0))).toInt

/-- The text does not go on with a digit. -/
def NoDigit (cs : List Char) : Prop := ∀ c, cs.head? = some c → c.isDigit = false

/-- There is a digit behind every sign. -/
def signsLead : List Char → Bool
  | [] => true
  | c :: cs => (!isSign c || cs.head?.any Char.isDigit) && signsLead cs

/-! ## What is left -/

theorem takeSign_suffix (cs : List Char) : (takeSign cs).2 <:+ cs := by
  cases cs with
  | nil => exact List.suffix_refl _
  | cons c cs =>
    rw [takeSign]
    split_ifs
    · exact List.suffix_cons c cs
    · exact List.suffix_refl _

theorem scanInt_snd (cs : List Char) :
    (scanInt cs).2 = (takeSign (cs.dropWhile isSpace)).2.dropWhile Char.isDigit := by
  unfold scanInt
  dsimp only
  split_ifs <;> rfl

theorem scanInt_fst_eq_none {cs : List Char} :
    (scanInt cs).1 = none ↔ (takeSign (cs.dropWhile isSpace)).2.takeWhile Char.isDigit = [] := by
  unfold scanInt
  dsimp only
  split_ifs with h <;> simp [h]

theorem scanInt_suffix (cs : List Char) : (scanInt cs).2 <:+ cs := by
  rw [scanInt_snd]
  exact ((List.dropWhile_suffix _).trans (takeSign_suffix _)).trans (List.dropWhile_suffix _)

/-- A number takes at least one character. -/
theorem scanInt_length_lt {cs : List Char} (h : (scanInt cs).1 ≠ none) :
    (scanInt cs).2.length < cs.length := by
  rw [Ne, scanInt_fst_eq_none] at h
  rw [scanInt_snd]
  have hsplit := congrArg List.length (List.takeWhile_append_dropWhile (p := Char.isDigit)
    (l := (takeSign (cs.dropWhile isSpace)).2))
  rw [List.length_append] at hsplit
  have hpos := List.length_pos_of_ne_nil h
  have hsign := (takeSign_suffix (cs.dropWhile isSpace)).length_le
  have hspace := (List.dropWhile_suffix isSpace (l := cs)).length_le
  omega

/-! ## Numbers that were written -/

theorem isSpace_eq_false_of_isDigit {c : Char} (h : c.isDigit = true) : isSpace c = false := by
  rw [Char.isDigit_iff_toNat] at h
  have hspace : c ≠ ' ' := by
    rintro rfl
    exact absurd h.1 (by decide)
  have hreturn : ¬ c ≤ '\r' := by
    intro hle
    have hnat : c.toNat ≤ '\r'.toNat := hle
    have hthirteen : '\r'.toNat = 13 := rfl
    have hzero : '0'.toNat = 48 := rfl
    omega
  simp [isSpace, hspace, hreturn]

theorem isSign_eq_false_of_isDigit {c : Char} (h : c.isDigit = true) : isSign c = false := by
  have hminus : c ≠ '-' := by
    rintro rfl
    exact absurd h (by decide)
  have hplus : c ≠ '+' := by
    rintro rfl
    exact absurd h (by decide)
  simp [isSign, hminus, hplus]

/-- The text of a number is read back, whatever white space is in front of it. -/
theorem scanInt_natText {spaces rest : List Char} (hspaces : ∀ c ∈ spaces, isSpace c = true)
    (n : Nat) (hrest : NoDigit rest) :
    scanInt (spaces ++ (natText n ++ rest)) = (some (n : Int), rest) := by
  obtain ⟨c, digits, hc⟩ := List.exists_cons_of_ne_nil (natText_ne_nil n)
  have hdigit : c.isDigit = true := isDigit_of_mem_natText (hc ▸ List.mem_cons_self)
  have hskip : (spaces ++ (natText n ++ rest)).dropWhile isSpace = natText n ++ rest := by
    rw [List.dropWhile_append_of_pos hspaces, hc, List.cons_append,
      List.dropWhile_cons_of_neg (by simp [isSpace_eq_false_of_isDigit hdigit])]
  have hsign : takeSign (natText n ++ rest) = (false, natText n ++ rest) := by
    rw [hc, List.cons_append, takeSign, isSign_eq_false_of_isDigit hdigit]
    rfl
  have hall : ∀ c ∈ natText n, c.isDigit = true := fun _ => isDigit_of_mem_natText
  have htake : (natText n ++ rest).takeWhile Char.isDigit = natText n := by
    rw [List.takeWhile_append_of_pos hall]
    cases rest with
    | nil => simp
    | cons d rest => simp [hrest d rfl]
  have hdrop : (natText n ++ rest).dropWhile Char.isDigit = rest := by
    rw [List.dropWhile_append_of_pos hall]
    cases rest with
    | nil => rfl
    | cons d rest => simp [hrest d rfl]
  unfold scanInt
  rw [hskip, hsign]
  dsimp only
  rw [htake, hdrop, if_neg (natText_ne_nil n), ofDigitChars_natText]
  rfl

/-! ## Texts that are no numbers -/

theorem signsLead_of_suffix {cs ds : List Char} (h : signsLead cs = true) (hs : ds <:+ cs) :
    signsLead ds = true := by
  induction cs with
  | nil =>
    rw [List.suffix_nil.mp hs]
    rfl
  | cons c cs ih =>
    rcases List.suffix_cons_iff.mp hs with rfl | hs
    · exact h
    · rw [signsLead, Bool.and_eq_true] at h
      exact ih h.2 hs

theorem signsLead_of_forall {cs : List Char} (h : ∀ c ∈ cs, isSign c = false) :
    signsLead cs = true := by
  induction cs with
  | nil => rfl
  | cons c cs ih =>
    rw [signsLead, h c List.mem_cons_self, ih fun d hd => h d (List.mem_cons_of_mem c hd)]
    rfl

/-- Where no number is and no sign is alone, a second attempt finds none either. -/
theorem scanInt_again {cs : List Char} (h : signsLead cs = true) (hnone : (scanInt cs).1 = none) :
    (scanInt (scanInt cs).2).1 = none := by
  have hlead := signsLead_of_suffix h (List.dropWhile_suffix isSpace)
  rw [scanInt_fst_eq_none] at hnone ⊢
  rw [scanInt_snd]
  cases hskip : cs.dropWhile isSpace with
  | nil => rfl
  | cons c rest =>
    have hspace : ¬ isSpace c = true := by
      have hhead := List.head?_dropWhile_not isSpace cs
      rw [hskip] at hhead
      simpa using hhead
    rw [hskip] at hnone hlead
    by_cases hsign : isSign c = true
    · -- then a digit comes next
      rw [takeSign, if_pos hsign] at hnone
      simp only [signsLead, hsign, Bool.not_true, Bool.false_or, Bool.and_eq_true] at hlead
      cases rest with
      | nil => exact absurd hlead.1 (by decide)
      | cons d rest =>
        have hdigit : d.isDigit = true := hlead.1
        simp [hdigit] at hnone
    · rw [takeSign, if_neg hsign] at hnone ⊢
      have hdigit : ¬ c.isDigit = true := by
        intro hdigit
        simp [hdigit] at hnone
      rw [List.dropWhile_cons_of_neg hdigit, List.dropWhile_cons_of_neg hspace, takeSign,
        if_neg hsign]
      exact hnone

end Scan
