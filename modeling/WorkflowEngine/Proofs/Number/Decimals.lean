import WorkflowEngine.Number.Shortest
import WorkflowEngine.Proofs.Number.Digits
import WorkflowEngine.Proofs.Number.Rounding

/-!
# Reading decimals

A decimal that a number owns is read as that number: the two bounds beyond which a
decimal is not rounded at all lie outside of what a finite number owns.  The interval in
which the shortest decimal is searched holds exactly the decimals that the number owns.
-/

namespace WorkflowEngine

/-! ## Decimals as rationals -/

namespace Decimal

/-- The value of a decimal. -/
def value (d : Decimal) : ℚ := d.digits * 10 ^ d.exponent

theorem den_ratio_pos (d : Decimal) : 0 < d.ratio.2 := by
  rw [ratio]
  split
  · exact Nat.one_pos
  · exact Nat.pow_pos (by decide)

theorem quotient_ratio (d : Decimal) : (d.ratio.1 : ℚ) / d.ratio.2 = d.value := by
  rw [ratio, value]
  split
  · next he => simp [Binary64.zpow_eq_pow_toNat he]
  · next he => simp [Binary64.zpow_eq_inv_pow_toNat (not_le.mp he), div_eq_mul_inv]

/-- Zeros at the end of the digits do not matter for the value. -/
theorem value_dropZeros (fuel : Nat) (d : Decimal) : (dropZeros fuel d).value = d.value := by
  induction fuel generalizing d with
  | zero => rfl
  | succ fuel ih =>
    rw [dropZeros]
    split
    · next hzero =>
      have hsplit : d.digits = 10 * (d.digits / 10) := by omega
      have hdigits : (d.digits : ℚ) = 10 * (d.digits / 10 : Nat) := by exact_mod_cast hsplit
      rw [ih, value, value, hdigits, zpow_add_one₀ (by norm_num)]
      ring
    · rfl

theorem digits_dropZeros_ne_zero (fuel : Nat) {d : Decimal} (hd : d.digits ≠ 0) :
    (dropZeros fuel d).digits ≠ 0 := by
  induction fuel generalizing d with
  | zero => exact hd
  | succ fuel ih =>
    rw [dropZeros]
    split
    · next hzero =>
      apply ih
      change d.digits / 10 ≠ 0
      omega
    · exact hd

end Decimal

namespace Binary64

/-! ## Reading decimals -/

theorem decimalSize_bounds {n : Nat} (hn : n ≠ 0) :
    10 ^ (decimalSize n - 1) ≤ n ∧ n < 10 ^ decimalSize n := by
  have hpos : 0 < decimalSize n := List.length_pos_of_ne_nil (digitChars_ne_nil n)
  constructor
  · by_cases hone : decimalSize n = 1
    · rw [hone]
      exact Nat.pos_of_ne_zero hn
    · by_contra hlt
      have hle := (length_digitChars_le_iff (n := n) (by omega)).mpr (not_le.mp hlt)
      change decimalSize n ≤ decimalSize n - 1 at hle
      omega
  · exact (length_digitChars_le_iff hpos).mp le_rfl

/-- The number of digits and the exponent locate a decimal. -/
theorem decimal_bounds {digits : Nat} (hdigits : digits ≠ 0) (exponent : Int) :
    (10 : ℚ) ^ (exponent + decimalSize digits - 1) ≤ digits * 10 ^ exponent ∧
      (digits : ℚ) * 10 ^ exponent < 10 ^ (exponent + decimalSize digits) := by
  obtain ⟨hlow, hhigh⟩ := decimalSize_bounds hdigits
  have hpos : 0 < decimalSize digits := List.length_pos_of_ne_nil (digitChars_ne_nil digits)
  have hunit : (0 : ℚ) < 10 ^ exponent := by positivity
  constructor
  · have hcast : ((10 ^ (decimalSize digits - 1) : Nat) : ℚ) ≤ digits := by exact_mod_cast hlow
    calc (10 : ℚ) ^ (exponent + decimalSize digits - 1)
        = ((10 ^ (decimalSize digits - 1) : Nat) : ℚ) * 10 ^ exponent := by
          push_cast
          rw [← zpow_natCast, ← zpow_add₀ (by norm_num)]
          congr 1
          omega
      _ ≤ digits * 10 ^ exponent := mul_le_mul_of_nonneg_right hcast hunit.le
  · have hcast : (digits : ℚ) < ((10 ^ decimalSize digits : Nat) : ℚ) := by
      exact_mod_cast hhigh
    calc (digits : ℚ) * 10 ^ exponent
        < ((10 ^ decimalSize digits : Nat) : ℚ) * 10 ^ exponent :=
          mul_lt_mul_of_pos_right hcast hunit
      _ = 10 ^ (exponent + decimalSize digits) := by
          push_cast
          rw [← zpow_natCast, ← zpow_add₀ (by norm_num), add_comm]

theorem Owns.lt_ten_zpow {x : Binary64} {v : ℚ} (h : x.Owns v) (hfinite : x.isFinite = true) :
    v < 10 ^ (400 : Int) := by
  have hp := power_le hfinite
  calc v < 2 ^ (x.power + 53) := h.lt_two_zpow
    _ ≤ 2 ^ ((3 * 400 : Nat) : Int) := zpow_le_zpow_right₀ one_le_two (by omega)
    _ = ((2 : ℚ) ^ 3) ^ 400 := by rw [zpow_natCast, pow_mul]
    _ ≤ 10 ^ 400 := pow_le_pow_left₀ (by positivity) (by norm_num) 400
    _ = 10 ^ (400 : Int) := (zpow_ofNat 10 400).symm

theorem Owns.ten_zpow_lt {x : Binary64} {v : ℚ} (h : x.Owns v) (hx : x.magnitude ≠ 0) :
    (10 : ℚ) ^ (-400 : Int) < v := by
  have hm : (1 : ℚ) ≤ x.mantissa := by exact_mod_cast mantissa_pos hx
  have hp := le_power x
  have hunit : (0 : ℚ) < 2 ^ x.power := by positivity
  calc (10 : ℚ) ^ (-400 : Int) = (10 ^ 400)⁻¹ := by rw [zpow_neg, zpow_ofNat]
    _ ≤ (((2 : ℚ) ^ 3) ^ 400)⁻¹ :=
        inv_anti₀ (by positivity) (pow_le_pow_left₀ (by positivity) (by norm_num) 400)
    _ = 2 ^ (-((3 * 400 : Nat) : Int)) := by rw [zpow_neg, zpow_natCast, pow_mul]
    _ < 2 ^ (x.power - 1) := zpow_lt_zpow_right₀ one_lt_two (by omega)
    _ = 1 / 2 * 2 ^ x.power := by rw [zpow_sub_one₀ two_ne_zero]; ring
    _ ≤ (x.mantissa - 1 / 2) * 2 ^ x.power := mul_le_mul_of_nonneg_right (by linarith) hunit.le
    _ ≤ v := h.low

/-- A decimal that a number owns is read as that number. -/
theorem Owns.ofDecimal_eq {x : Binary64} {digits : Nat} {exponent : Int}
    (h : x.Owns (digits * 10 ^ exponent)) (hfinite : x.isFinite = true)
    (hx : x.magnitude ≠ 0) (negative : Bool) :
    ofDecimal negative digits exponent = ofSign negative x.magnitude := by
  have hdigits : digits ≠ 0 := by
    rintro rfl
    have := h.pos hx
    simp at this
  obtain ⟨hlow, hhigh⟩ := decimal_bounds hdigits exponent
  have hten : (1 : ℚ) < 10 := by norm_num
  have habove : ¬ 400 < exponent + decimalSize digits := by
    intro hlt
    have := (zpow_lt_zpow_iff_right₀ hten).mp (hlow.trans_lt (h.lt_ten_zpow hfinite))
    omega
  have hbelow : ¬ exponent + decimalSize digits < -400 := by
    intro hlt
    have := (zpow_lt_zpow_iff_right₀ hten).mp ((h.ten_zpow_lt hx).trans hhigh)
    omega
  rw [ofDecimal, if_neg hdigits, if_neg habove, if_neg hbelow]
  split
  · next he =>
    apply Owns.round_eq _ Nat.one_pos hfinite hx
    simpa [zpow_eq_pow_toNat he] using h
  · next he =>
    apply Owns.round_eq _ (Nat.pow_pos (by decide)) hfinite hx
    simpa [zpow_eq_inv_pow_toNat (not_le.mp he), div_eq_mul_inv] using h

/-! ## The interval of a number -/

instance (x : Binary64) : Decidable x.narrowBelow := inferInstanceAs (Decidable (_ ∧ _))

/-- An interval contains the decimals between its ends, and the ends if it is closed. -/
theorem Interval.contains_iff {i : Interval} (hi : 0 < i.den) (d : Decimal) :
    i.contains d = true ↔
      (i.low : ℚ) / i.den ≤ d.value ∧ d.value ≤ (i.high : ℚ) / i.den ∧
        (i.closed = true ∨
          ((i.low : ℚ) / i.den < d.value ∧ d.value < (i.high : ℚ) / i.den)) := by
  have hiQ : (0 : ℚ) < i.den := by exact_mod_cast hi
  have hd := d.den_ratio_pos
  have hvalue := d.quotient_ratio
  rw [contains]
  generalize d.ratio = quotient at hd hvalue ⊢
  obtain ⟨num, den⟩ := quotient
  dsimp only at hd hvalue ⊢
  have hdQ : (0 : ℚ) < den := by exact_mod_cast hd
  rw [← hvalue, div_le_div_iff₀ hiQ hdQ, div_le_div_iff₀ hdQ hiQ, div_lt_div_iff₀ hiQ hdQ,
    div_lt_div_iff₀ hdQ hiQ]
  norm_cast
  by_cases hclosed : i.closed = true
  · simp [hclosed]
  · simp only [hclosed, Bool.false_eq_true, if_false, Bool.and_eq_true, decide_eq_true_eq,
      false_or]
    constructor
    · rintro ⟨hlow, hhigh⟩
      exact ⟨hlow.le, hhigh.le, hlow, hhigh⟩
    · exact fun h => h.2.2

theorem den_interval_pos (x : Binary64) : 0 < x.interval.den := den_scaled_pos 1 (x.power - 2)

theorem closed_interval (x : Binary64) : x.interval.closed = decide (x.mantissa % 2 = 0) := rfl

theorem quarter_unit (x : Binary64) :
    ((scaled 1 (x.power - 2)).1 : ℚ) / (scaled 1 (x.power - 2)).2 = 1 / 4 * 2 ^ x.power := by
  rw [quotient_scaled, zpow_sub₀ two_ne_zero]
  norm_num
  ring

theorem high_interval (x : Binary64) :
    (x.interval.high : ℚ) / x.interval.den = (x.mantissa + 1 / 2) * 2 ^ x.power := by
  change (((4 * x.mantissa + 2) * (scaled 1 (x.power - 2)).1 : Nat) : ℚ) /
    (scaled 1 (x.power - 2)).2 = _
  rw [Nat.cast_mul, mul_div_assoc, quarter_unit]
  push_cast
  ring

theorem low_interval {x : Binary64} (hx : x.magnitude ≠ 0) :
    (x.interval.low : ℚ) / x.interval.den =
      (x.mantissa - if x.narrowBelow then 1 / 4 else 1 / 2) * 2 ^ x.power := by
  have hm := mantissa_pos hx
  change (((4 * x.mantissa - if x.narrowBelow then 1 else 2) *
    (scaled 1 (x.power - 2)).1 : Nat) : ℚ) / (scaled 1 (x.power - 2)).2 = _
  rw [Nat.cast_mul, mul_div_assoc, quarter_unit]
  split
  · rw [Nat.cast_sub (by omega)]
    push_cast
    ring
  · rw [Nat.cast_sub (by omega)]
    push_cast
    ring

/-- The interval of a number contains the decimals that the number owns. -/
theorem contains_interval_iff {x : Binary64} (hx : x.magnitude ≠ 0) (d : Decimal) :
    x.interval.contains d = true ↔ x.Owns d.value := by
  have hunit : (0 : ℚ) < 2 ^ x.power := by positivity
  rw [Interval.contains_iff x.den_interval_pos, high_interval, low_interval hx,
    closed_interval, decide_eq_true_eq]
  by_cases hnarrow : x.narrowBelow
  · have heven : x.mantissa % 2 = 0 := by rw [hnarrow.1, leadingBit_eq]
    have hwider : (x.mantissa - 1 / 2 : ℚ) * 2 ^ x.power ≤ (x.mantissa - 1 / 4) * 2 ^ x.power :=
      mul_le_mul_of_nonneg_right (by linarith) hunit.le
    rw [if_pos hnarrow]
    constructor
    · rintro ⟨hlow, hhigh, -⟩
      exact ⟨hwider.trans hlow, hhigh, Or.inl heven, fun _ => hlow⟩
    · intro h
      exact ⟨h.narrow hnarrow, h.high, Or.inl heven⟩
  · rw [if_neg hnarrow]
    constructor
    · rintro ⟨hlow, hhigh, hties⟩
      exact ⟨hlow, hhigh, hties, fun h => absurd h hnarrow⟩
    · intro h
      exact ⟨h.low, h.high, h.ties⟩

end Binary64

end WorkflowEngine
