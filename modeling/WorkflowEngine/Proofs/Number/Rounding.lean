import Mathlib.Algebra.Order.Field.Power
import Mathlib.Algebra.Order.Ring.Rat
import Mathlib.Data.Nat.Cast.Order.Field
import Mathlib.Tactic.Linarith
import Mathlib.Tactic.NormNum
import Mathlib.Tactic.Positivity
import Mathlib.Tactic.Ring
import WorkflowEngine.Number.Binary64

/-!
# Rounding to binary64

A positive finite number owns the rationals around it: those up to half of the gap on
either side, and the ends themselves if its mantissa is even.  Rounding takes every
rational that a number owns back to that number.
-/

namespace WorkflowEngine.Binary64

/-! ## Powers with integer exponents -/

theorem zpow_eq_pow_toNat {p : Int} (hp : 0 ≤ p) (b : ℚ) : b ^ p = b ^ p.toNat := by
  rw [← zpow_natCast, Int.toNat_of_nonneg hp]

theorem zpow_eq_inv_pow_toNat {p : Int} (hp : p < 0) (b : ℚ) : b ^ p = (b ^ (-p).toNat)⁻¹ := by
  rw [← zpow_eq_pow_toNat (by omega), zpow_neg, inv_inv]

theorem den_scaled_pos (factor : Nat) (p : Int) : 0 < (scaled factor p).2 := by
  rw [scaled]
  split
  · exact Nat.one_pos
  · exact Nat.pow_pos (by decide)

theorem quotient_scaled (factor : Nat) (p : Int) :
    ((scaled factor p).1 : ℚ) / (scaled factor p).2 = factor * 2 ^ p := by
  rw [scaled]
  split
  · next hp => simp [zpow_eq_pow_toNat hp]
  · next hp => simp [zpow_eq_inv_pow_toNat (not_le.mp hp), div_eq_mul_inv]

theorem den_inUnits_pos (num : Nat) {den : Nat} (hden : 0 < den) (p : Int) :
    0 < (inUnits num den p).2 := by
  rw [inUnits]
  split
  · exact Nat.mul_pos hden (Nat.pow_pos (by decide))
  · exact hden

theorem quotient_inUnits (num den : Nat) (p : Int) :
    ((inUnits num den p).1 : ℚ) / (inUnits num den p).2 = num / den / 2 ^ p := by
  rw [inUnits]
  split
  · next hp => simp [zpow_eq_pow_toNat hp, div_div]
  · next hp =>
    simp only [Nat.pow_eq, Nat.cast_mul, Nat.cast_pow, Nat.cast_ofNat,
      zpow_eq_inv_pow_toNat (not_le.mp hp)]
    rw [div_inv_eq_mul, mul_div_right_comm]

/-! ## The parts of a number -/

theorem leadingBit_eq : leadingBit = 4503599627370496 := by decide

theorem cast_leadingBit : ((leadingBit : Nat) : ℚ) = 2 ^ (52 : Int) := by
  rw [leadingBit_eq]
  norm_num

/-- The absolute value of a finite number. -/
def value (x : Binary64) : ℚ := x.mantissa * 2 ^ x.power

theorem quotient_ratio (x : Binary64) : (x.ratio.1 : ℚ) / x.ratio.2 = x.value :=
  quotient_scaled x.mantissa x.power

theorem den_ratio_pos (x : Binary64) : 0 < x.ratio.2 := den_scaled_pos x.mantissa x.power

theorem mantissa_lt (x : Binary64) : x.mantissa < 2 * leadingBit := by
  rw [mantissa, leadingBit_eq]
  split <;> omega

theorem le_power (x : Binary64) : -1074 ≤ x.power := by
  rw [power, leadingBit_eq]
  split
  · omega
  · have : 0 < x.magnitude / 4503599627370496 := by omega
    omega

theorem power_le {x : Binary64} (hx : x.isFinite = true) : x.power ≤ 971 := by
  rw [isFinite, decide_eq_true_eq, infiniteMagnitude, leadingBit_eq] at hx
  rw [power, leadingBit_eq]
  split
  · omega
  · have : x.magnitude / 4503599627370496 < 2047 := by omega
    omega

/-- Only at the least exponent is a mantissa not full. -/
theorem leadingBit_le_mantissa {x : Binary64} (hx : -1074 < x.power) :
    leadingBit ≤ x.mantissa := by
  rw [power] at hx
  rw [mantissa]
  split
  · next h =>
    rw [if_pos h] at hx
    omega
  · exact Nat.le_add_left ..

theorem mantissa_pos {x : Binary64} (hx : x.magnitude ≠ 0) : 0 < x.mantissa := by
  rw [mantissa]
  split
  · exact Nat.pos_of_ne_zero hx
  · rw [leadingBit_eq]
    exact Nat.add_pos_right _ (by decide)

/-- A number is spelled by its exponent and its mantissa together. -/
theorem magnitude_eq (x : Binary64) :
    (x.power + 1074).toNat * leadingBit + x.mantissa = x.magnitude := by
  rw [power, mantissa, leadingBit_eq]
  split
  · simp
  · have hpos : 0 < x.magnitude / 4503599627370496 := by omega
    have hexp : (((x.magnitude / 4503599627370496 : Nat) : Int) - 1075 + 1074).toNat =
        x.magnitude / 4503599627370496 - 1 := by omega
    rw [hexp]
    omega

theorem ofSign_magnitude (x : Binary64) : ofSign x.negative x.magnitude = x := by
  have hbits : (if x.negative = true then signBit else 0) + x.magnitude = x.bits.toNat := by
    have hlt : x.bits.toNat < 2 ^ 64 := x.bits.toNat_lt
    have hsign : signBit = 9223372036854775808 := by decide
    rw [negative, magnitude, hsign]
    split
    · next h =>
      rw [decide_eq_true_eq] at h
      omega
    · next h =>
      rw [decide_eq_true_eq] at h
      omega
  rw [ofSign, hbits, UInt64.ofNat_toNat]

/-! ## Rounding quotients -/

/-- An integer is what a quotient rounds to if it is at most a half away, and not a
half unless it is even. -/
theorem roundHalfEven_eq {num den m : Nat} (hden : 0 < den)
    (hlow : (m : ℚ) - 1 / 2 ≤ num / den) (hhigh : (num : ℚ) / den ≤ m + 1 / 2)
    (hties : m % 2 = 0 ∨ ((m : ℚ) - 1 / 2 < num / den ∧ (num : ℚ) / den < m + 1 / 2)) :
    roundHalfEven num den = m := by
  have hdenQ : (0 : ℚ) < den := by exact_mod_cast hden
  have hsplit : den * (num / den) + num % den = num := Nat.div_add_mod num den
  have hrest : num % den < den := Nat.mod_lt num hden
  -- The bounds in integers.
  have hlow' : 2 * m * den ≤ 2 * num + den := by
    rw [le_div_iff₀ hdenQ] at hlow
    have : (2 * m * den : ℚ) ≤ 2 * num + den := by linarith
    exact_mod_cast this
  have hhigh' : 2 * num ≤ 2 * m * den + den := by
    rw [div_le_iff₀ hdenQ] at hhigh
    have : (2 * num : ℚ) ≤ 2 * m * den + den := by linarith
    exact_mod_cast this
  have hties' : m % 2 = 0 ∨ (2 * m * den < 2 * num + den ∧ 2 * num < 2 * m * den + den) := by
    refine hties.imp_right fun ⟨hl, hh⟩ => ?_
    rw [lt_div_iff₀ hdenQ] at hl
    rw [div_lt_iff₀ hdenQ] at hh
    constructor
    · have : (2 * m * den : ℚ) < 2 * num + den := by linarith
      exact_mod_cast this
    · have : (2 * num : ℚ) < 2 * m * den + den := by linarith
      exact_mod_cast this
  rw [roundHalfEven]
  generalize num / den = q at hsplit ⊢
  generalize num % den = r at hsplit hrest ⊢
  -- The integer part is the integer or the one before it.
  have hupper : q ≤ m := by
    by_contra hq
    have hmul : den * (m + 1) ≤ den * q := Nat.mul_le_mul_left _ (by omega)
    have hcomm : den * (m + 1) = m * den + den := by ring
    have hdouble : 2 * m * den = 2 * (m * den) := by ring
    omega
  have hlower : m ≤ q + 1 := by
    by_contra hq
    have hmul : den * (q + 2) ≤ den * m := Nat.mul_le_mul_left _ (by omega)
    have hcomm : den * (q + 2) = den * q + 2 * den := by ring
    have hdouble : 2 * m * den = 2 * (den * m) := by ring
    omega
  rcases (show q = m ∨ q + 1 = m by omega) with rfl | rfl
  · have hdouble : 2 * q * den = 2 * (den * q) := by ring
    rw [hdouble] at hhigh' hties'
    split
    · rfl
    · rw [if_neg (by omega)]
      have heven : q % 2 = 0 := by omega
      rw [heven, Nat.add_zero]
  · have hdouble : 2 * (q + 1) * den = 2 * (den * q) + 2 * den := by ring
    rw [hdouble] at hlow' hties'
    rw [if_neg (by omega)]
    split
    · rfl
    · have hodd : q % 2 = 1 := by omega
      rw [hodd]

/-- Powers of two around a natural number. -/
theorem two_pow_log2_bounds {n : Nat} (hn : n ≠ 0) :
    (2 : ℚ) ^ (n.log2 : Int) ≤ n ∧ (n : ℚ) < 2 ^ ((n.log2 : Int) + 1) := by
  constructor
  · have h := Nat.log2_self_le hn
    rw [zpow_natCast]
    exact_mod_cast h
  · have h := Nat.lt_log2_self (n := n)
    have hcast : ((n.log2 : Int) + 1) = ((n.log2 + 1 : Nat) : Int) := by push_cast; rfl
    rw [hcast, zpow_natCast]
    exact_mod_cast h

/-- The logarithms of numerator and denominator locate a quotient. -/
theorem quotient_log2_bounds {num den : Nat} (hnum : num ≠ 0) (hden : den ≠ 0) :
    (2 : ℚ) ^ ((num.log2 : Int) - den.log2 - 1) ≤ num / den ∧
      (num : ℚ) / den < 2 ^ ((num.log2 : Int) - den.log2 + 1) := by
  have hdenQ : (0 : ℚ) < den := by exact_mod_cast Nat.pos_of_ne_zero hden
  obtain ⟨hnumLow, hnumHigh⟩ := two_pow_log2_bounds hnum
  obtain ⟨hdenLow, hdenHigh⟩ := two_pow_log2_bounds hden
  constructor
  · rw [le_div_iff₀ hdenQ]
    calc (2 : ℚ) ^ ((num.log2 : Int) - den.log2 - 1) * den
        ≤ 2 ^ ((num.log2 : Int) - den.log2 - 1) * 2 ^ ((den.log2 : Int) + 1) := by
          exact mul_le_mul_of_nonneg_left hdenHigh.le (by positivity)
      _ = 2 ^ (num.log2 : Int) := by
          rw [← zpow_add₀ two_ne_zero]
          congr 1
          ring
      _ ≤ num := hnumLow
  · rw [div_lt_iff₀ hdenQ]
    calc (num : ℚ) < 2 ^ ((num.log2 : Int) + 1) := hnumHigh
      _ = 2 ^ ((num.log2 : Int) - den.log2 + 1) * 2 ^ (den.log2 : Int) := by
          rw [← zpow_add₀ two_ne_zero]
          congr 1
          ring
      _ ≤ 2 ^ ((num.log2 : Int) - den.log2 + 1) * den := by
          exact mul_le_mul_of_nonneg_left hdenLow (by positivity)

/-- The exponent at which the mantissa of a quotient is full. -/
def fullPower (num den : Nat) : Int :=
  let guess : Int := (num.log2 : Int) - den.log2 - 53
  let (n, d) := inUnits num den guess
  if 2 * leadingBit * d ≤ n then guess + 1 else guess

theorem unitPower_eq_max_fullPower (num den : Nat) :
    unitPower num den = max (-1074) (fullPower num den) :=
  rfl

/-- In units of its exponent the mantissa of a quotient has 53 bits. -/
theorem fullPower_bounds {num den : Nat} (hnum : num ≠ 0) (hden : den ≠ 0) :
    (2 : ℚ) ^ (fullPower num den + 52) ≤ num / den ∧
      (num : ℚ) / den < 2 ^ (fullPower num den + 53) := by
  obtain ⟨hlow, hhigh⟩ := quotient_log2_bounds hnum hden
  rw [fullPower]
  dsimp only
  generalize hguess : ((num.log2 : Int) - den.log2 - 53) = guess
  have hlow' : (2 : ℚ) ^ (guess + 52) ≤ num / den := by
    rwa [← hguess, show (num.log2 : Int) - den.log2 - 53 + 52 = num.log2 - den.log2 - 1 by ring]
  have hhigh' : (num : ℚ) / den < 2 ^ (guess + 54) := by
    rwa [← hguess, show (num.log2 : Int) - den.log2 - 53 + 54 = num.log2 - den.log2 + 1 by ring]
  have hquotient := quotient_inUnits num den guess
  have hpos := den_inUnits_pos num (Nat.pos_of_ne_zero hden) guess
  generalize inUnits num den guess = units at hquotient hpos ⊢
  obtain ⟨n, d⟩ := units
  dsimp only at hquotient hpos ⊢
  have hdQ : (0 : ℚ) < d := by exact_mod_cast hpos
  have hunit : (0 : ℚ) < 2 ^ guess := by positivity
  -- The comparison tells on which side of a power of two the quotient lies.
  have hcompare : 2 * leadingBit * d ≤ n ↔ (2 : ℚ) ^ (guess + 53) ≤ num / den := by
    have hfull : ((2 * leadingBit : Nat) : ℚ) = 2 ^ (53 : Int) := by
      rw [leadingBit_eq]
      norm_num
    calc 2 * leadingBit * d ≤ n ↔ ((2 * leadingBit : Nat) : ℚ) * d ≤ n := by norm_cast
      _ ↔ ((2 * leadingBit : Nat) : ℚ) ≤ n / d := (le_div_iff₀ hdQ).symm
      _ ↔ (2 : ℚ) ^ (53 : Int) ≤ num / den / 2 ^ guess := by rw [hfull, hquotient]
      _ ↔ (2 : ℚ) ^ (guess + 53) ≤ num / den := by
        rw [le_div_iff₀ hunit, ← zpow_add₀ two_ne_zero, add_comm]
  split
  · next h =>
    constructor
    · rw [show guess + 1 + 52 = guess + 53 by ring]
      exact hcompare.mp h
    · rwa [show guess + 1 + 53 = guess + 54 by ring]
  · next h =>
    exact ⟨hlow', not_le.mp fun hle => h (hcompare.mpr hle)⟩

/-- A quotient is rounded in units of `2 ^ p` if its mantissa has 53 bits there, or fewer
at the least exponent. -/
theorem unitPower_eq {num den : Nat} {p : Int} (hnum : num ≠ 0) (hden : den ≠ 0)
    (hp : -1074 ≤ p) (hlow : p = -1074 ∨ (2 : ℚ) ^ (p + 52) ≤ num / den)
    (hhigh : (num : ℚ) / den < 2 ^ (p + 53)) :
    unitPower num den = p := by
  obtain ⟨hfullLow, hfullHigh⟩ := fullPower_bounds hnum hden
  have hle : fullPower num den ≤ p := by
    have h := (zpow_lt_zpow_iff_right₀ (one_lt_two (α := ℚ))).mp (hfullLow.trans_lt hhigh)
    omega
  rw [unitPower_eq_max_fullPower]
  rcases hlow with rfl | hlow
  · exact max_eq_left hle
  · have h := (zpow_lt_zpow_iff_right₀ (one_lt_two (α := ℚ))).mp (hlow.trans_lt hfullHigh)
    have heq : fullPower num den = p := by omega
    rw [heq]
    exact max_eq_right hp

/-! ## What a number owns -/

/-- Whether the gap below a number is half as wide as the gap above it. -/
def narrowBelow (x : Binary64) : Prop := x.mantissa = leadingBit ∧ -1074 < x.power

/-- A rational that rounds to a positive finite number. -/
structure Owns (x : Binary64) (v : ℚ) : Prop where
  low : (x.mantissa - 1 / 2 : ℚ) * 2 ^ x.power ≤ v
  high : v ≤ (x.mantissa + 1 / 2 : ℚ) * 2 ^ x.power
  ties : x.mantissa % 2 = 0 ∨
    ((x.mantissa - 1 / 2 : ℚ) * 2 ^ x.power < v ∧ v < (x.mantissa + 1 / 2 : ℚ) * 2 ^ x.power)
  narrow : x.narrowBelow → (x.mantissa - 1 / 4 : ℚ) * 2 ^ x.power ≤ v

theorem Owns.pos {x : Binary64} {v : ℚ} (h : x.Owns v) (hx : x.magnitude ≠ 0) : 0 < v := by
  have hm : (1 : ℚ) ≤ x.mantissa := by exact_mod_cast mantissa_pos hx
  have hunit : (0 : ℚ) < 2 ^ x.power := by positivity
  have hlow : 0 < (x.mantissa - 1 / 2 : ℚ) * 2 ^ x.power := mul_pos (by linarith) hunit
  exact hlow.trans_le h.low

/-- In units of its own exponent a quotient that a number owns is next to the mantissa. -/
theorem Owns.roundHalfEven_eq {x : Binary64} {num den : Nat} (h : x.Owns (num / den))
    (hden : 0 < den) :
    roundHalfEven (inUnits num den x.power).1 (inUnits num den x.power).2 = x.mantissa := by
  have hunit : (0 : ℚ) < 2 ^ x.power := by positivity
  apply Binary64.roundHalfEven_eq (den_inUnits_pos _ hden x.power)
  · rw [quotient_inUnits, le_div_iff₀ hunit]
    exact h.low
  · rw [quotient_inUnits, div_le_iff₀ hunit]
    exact h.high
  · rw [quotient_inUnits, lt_div_iff₀ hunit, div_lt_iff₀ hunit]
    exact h.ties

theorem Owns.lt_two_zpow {x : Binary64} {v : ℚ} (h : x.Owns v) : v < 2 ^ (x.power + 53) := by
  have hunit : (0 : ℚ) < 2 ^ x.power := by positivity
  have hm : (x.mantissa : ℚ) + 1 ≤ 2 ^ (53 : Int) := by
    have hlt := mantissa_lt x
    rw [leadingBit_eq] at hlt
    have hcast : ((x.mantissa + 1 : Nat) : ℚ) ≤ (9007199254740992 : Nat) := by
      exact_mod_cast hlt
    norm_num at hcast ⊢
    exact hcast
  calc v ≤ (x.mantissa + 1 / 2 : ℚ) * 2 ^ x.power := h.high
    _ < 2 ^ (53 : Int) * 2 ^ x.power := mul_lt_mul_of_pos_right (by linarith) hunit
    _ = 2 ^ (x.power + 53) := by rw [← zpow_add₀ two_ne_zero, add_comm]

/-- A quotient that a number owns lies below its binade only if the number is a power of
two. -/
theorem Owns.narrowBelow {x : Binary64} {v : ℚ} (h : x.Owns v) (hx : -1074 < x.power)
    (hv : v < 2 ^ (x.power + 52)) : x.narrowBelow := by
  refine ⟨?_, hx⟩
  have hunit : (0 : ℚ) < 2 ^ x.power := by positivity
  have hle := leadingBit_le_mantissa hx
  by_contra hne
  have hmore : ((leadingBit + 1 : Nat) : ℚ) ≤ x.mantissa := by
    have : leadingBit + 1 ≤ x.mantissa := by omega
    exact_mod_cast this
  have hbinade : (2 : ℚ) ^ (x.power + 52) = leadingBit * 2 ^ x.power := by
    rw [cast_leadingBit, ← zpow_add₀ two_ne_zero, add_comm]
  have hlt : (x.mantissa - 1 / 2 : ℚ) * 2 ^ x.power < leadingBit * 2 ^ x.power := by
    rw [← hbinade]
    exact h.low.trans_lt hv
  have := lt_of_mul_lt_mul_right hlt hunit.le
  push_cast at hmore
  linarith

theorem Owns.two_zpow_le {x : Binary64} {v : ℚ} (h : x.Owns v) (hx : x.narrowBelow) :
    (2 : ℚ) ^ (x.power + 51) ≤ v := by
  have hunit : (0 : ℚ) < 2 ^ x.power := by positivity
  have hlead : (2 : ℚ) ^ (51 : Int) ≤ leadingBit - 1 / 2 := by
    rw [leadingBit_eq]
    norm_num
  calc (2 : ℚ) ^ (x.power + 51) = 2 ^ (51 : Int) * 2 ^ x.power := by
        rw [← zpow_add₀ two_ne_zero, add_comm]
    _ ≤ (leadingBit - 1 / 2) * 2 ^ x.power := mul_le_mul_of_nonneg_right hlead hunit.le
    _ = (x.mantissa - 1 / 2) * 2 ^ x.power := by rw [hx.1]
    _ ≤ v := h.low

/-- In the lower half of the narrow gap a quotient is rounded in halved units, and there
its mantissa overflows. -/
theorem Owns.roundHalfEven_narrow {x : Binary64} {num den : Nat} (h : x.Owns (num / den))
    (hden : 0 < den) (hx : x.narrowBelow) (hv : (num : ℚ) / den < 2 ^ (x.power + 52)) :
    roundHalfEven (inUnits num den (x.power - 1)).1 (inUnits num den (x.power - 1)).2 =
      2 * leadingBit := by
  have hunit : (0 : ℚ) < 2 ^ (x.power - 1) := by positivity
  have hhalf : (2 : ℚ) ^ x.power = 2 * 2 ^ (x.power - 1) := by
    rw [← zpow_one_add₀ two_ne_zero]
    congr 1
    ring
  have hnarrow := h.narrow hx
  rw [hx.1, hhalf] at hnarrow
  have hbelow : (num : ℚ) / den < 2 * leadingBit * 2 ^ (x.power - 1) := by
    calc (num : ℚ) / den < 2 ^ (x.power + 52) := hv
      _ = leadingBit * 2 ^ x.power := by
        rw [cast_leadingBit, ← zpow_add₀ two_ne_zero, add_comm]
      _ = 2 * leadingBit * 2 ^ (x.power - 1) := by
        rw [hhalf]
        ring
  apply Binary64.roundHalfEven_eq (den_inUnits_pos _ hden _)
  · rw [quotient_inUnits, le_div_iff₀ hunit]
    push_cast
    linarith
  · rw [quotient_inUnits, div_le_iff₀ hunit]
    push_cast
    linarith
  · exact Or.inl (by rw [leadingBit_eq])

/-- A quotient that a number owns is rounded to that number. -/
theorem Owns.round_eq {x : Binary64} {num den : Nat} (h : x.Owns (num / den))
    (hden : 0 < den) (hfinite : x.isFinite = true) (hx : x.magnitude ≠ 0) (negative : Bool) :
    round negative num den = ofSign negative x.magnitude := by
  have hnum : num ≠ 0 := by
    rintro rfl
    have := h.pos hx
    simp at this
  have hp := le_power x
  have hspelled : (unitPower num den + 1074).toNat * leadingBit +
      roundHalfEven (inUnits num den (unitPower num den)).1
        (inUnits num den (unitPower num den)).2 = x.magnitude := by
    rw [← magnitude_eq x]
    by_cases hv : x.power = -1074 ∨ (2 : ℚ) ^ (x.power + 52) ≤ num / den
    · rw [unitPower_eq hnum hden.ne' hp hv h.lt_two_zpow, h.roundHalfEven_eq hden]
    · obtain ⟨hne, hlt⟩ := not_or.mp hv
      have hlt := not_le.mp hlt
      have hnarrow := h.narrowBelow (by omega) hlt
      have hunit : unitPower num den = x.power - 1 := by
        refine unitPower_eq hnum hden.ne' (by omega) (Or.inr ?_) ?_
        · rw [show x.power - 1 + 52 = x.power + 51 by ring]
          exact h.two_zpow_le hnarrow
        · rwa [show x.power - 1 + 53 = x.power + 52 by ring]
      have hexp : (x.power - 1 + 1074).toNat + 1 = (x.power + 1074).toNat := by omega
      rw [hunit, h.roundHalfEven_narrow hden hnarrow hlt, hnarrow.1, ← hexp]
      ring
  rw [round, if_neg hnum]
  dsimp only
  rw [hspelled, min_eq_left]
  exact le_of_lt (of_decide_eq_true hfinite)

end WorkflowEngine.Binary64
