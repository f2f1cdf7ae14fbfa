import WorkflowEngine.Proofs.Number.Decimals

/-!
# Signs of rounded numbers

Rounding keeps the sign, and a quotient that is at least one is not rounded to zero.  So
the number nearest to an integer is at least zero exactly if the integer is.
-/

namespace WorkflowEngine.Binary64

theorem signBit_eq : signBit = 9223372036854775808 := by decide

theorem infiniteMagnitude_lt_signBit : infiniteMagnitude < signBit := by decide

/-! ## Bits -/

section Bits

variable {m : Nat}

theorem toNat_bits_ofSign (s : Bool) (hm : m < signBit) :
    (ofSign s m).bits.toNat = (if s = true then signBit else 0) + m := by
  rw [signBit_eq] at hm
  rw [ofSign, UInt64.toNat_ofNat', signBit_eq]
  cases s <;> simp <;> omega

theorem negative_ofSign (s : Bool) (hm : m < signBit) : (ofSign s m).negative = s := by
  rw [negative, toNat_bits_ofSign s hm]
  cases s
  · simpa using hm
  · simp

theorem magnitude_ofSign (s : Bool) (hm : m < signBit) : (ofSign s m).magnitude = m := by
  rw [magnitude, toNat_bits_ofSign s hm]
  cases s
  · simpa using Nat.mod_eq_of_lt hm
  · simpa using Nat.mod_eq_of_lt hm

/-- Among the numbers that are spelled by a sign and by no more than infinity, those at
least zero have no sign or are zero. -/
theorem isNonnegative_ofSign_iff (s : Bool) (hm : m ≤ infiniteMagnitude) :
    (ofSign s m).isNonnegative = true ↔ s = false ∨ m = 0 := by
  have hlt := Nat.lt_of_le_of_lt hm infiniteMagnitude_lt_signBit
  rw [isNonnegative, isNaN, negative_ofSign s hlt, magnitude_ofSign s hlt]
  simp [Nat.not_lt.mpr hm]

end Bits

/-! ## Rounding -/

/-- The exponent of a quotient that is at least one is far above the least one. -/
theorem lt_unitPower {num den : Nat} (hden : den ≠ 0) (hle : den ≤ num) :
    -1074 < unitPower num den := by
  have hlog : den.log2 ≤ num.log2 := by
    rw [Nat.le_log2 (Nat.ne_of_gt (Nat.lt_of_lt_of_le (Nat.pos_of_ne_zero hden) hle))]
    exact (Nat.log2_self_le hden).trans hle
  rw [unitPower]
  dsimp only
  split <;> omega

/-- A quotient that is at least one is rounded to a number of the same sign, and not to
zero. -/
theorem isNonnegative_round_iff {num den : Nat} (s : Bool) (hden : den ≠ 0) (hle : den ≤ num) :
    (round s num den).isNonnegative = true ↔ s = false := by
  have hnum : num ≠ 0 := Nat.ne_of_gt (Nat.lt_of_lt_of_le (Nat.pos_of_ne_zero hden) hle)
  have hunit := lt_unitPower hden hle
  rw [round, if_neg hnum]
  dsimp only
  rw [isNonnegative_ofSign_iff s (Nat.min_le_right _ _), or_iff_left]
  have hfull : 0 < (unitPower num den + 1074).toNat * leadingBit :=
    Nat.mul_pos (by omega) (by decide)
  have hinfinite : 0 < infiniteMagnitude := by decide
  omega

/-- The number nearest to an integer is at least zero exactly if the integer is. -/
theorem isNonnegative_ofInt_iff (n : Int) : (ofInt n).isNonnegative = true ↔ 0 ≤ n := by
  rw [ofInt]
  by_cases hn : n = 0
  · subst hn
    decide
  · rw [isNonnegative_round_iff _ Nat.one_ne_zero (by omega), decide_eq_false_iff_not, not_lt]

theorem isNonnegative_infinity_iff (s : Bool) :
    (infinity s).isNonnegative = true ↔ s = false := by
  rw [infinity, isNonnegative_ofSign_iff s (Nat.le_refl _), or_iff_left (by decide)]

/-- A decimal that is at least one is rounded to a number of the same sign, and not to
zero. -/
theorem isNonnegative_ofDecimal_iff {digits places : Nat} (s : Bool)
    (hle : 10 ^ places ≤ digits) :
    (ofDecimal s digits (-places)).isNonnegative = true ↔ s = false := by
  have hten : 0 < 10 ^ places := Nat.pow_pos (by decide)
  have hdigits : digits ≠ 0 := by omega
  have hsize : places < decimalSize digits :=
    (Nat.pow_lt_pow_iff_right (by decide)).mp (hle.trans_lt (decimalSize_bounds hdigits).2)
  rw [ofDecimal, if_neg hdigits]
  split
  · exact isNonnegative_infinity_iff s
  · rw [if_neg (by omega)]
    split
    · next hplaces =>
      apply isNonnegative_round_iff s Nat.one_ne_zero
      exact Nat.mul_pos (Nat.pos_of_ne_zero hdigits) (Nat.pow_pos (by decide))
    · next hplaces =>
      rw [neg_neg, Int.toNat_natCast]
      exact isNonnegative_round_iff s (Nat.ne_of_gt hten) hle

/-! ## Integers among the numbers -/

theorem ratio_pos {x : Binary64} (hx : x.magnitude ≠ 0) : 0 < x.ratio.1 := by
  rw [ratio, scaled]
  split
  · exact Nat.mul_pos (mantissa_pos hx) (Nat.pow_pos (by decide))
  · exact mantissa_pos hx

/-- A number that is not at least zero is equal to no integer but a negative one. -/
theorem toInt?_neg {x : Binary64} (hx : x.isNonnegative = false) {n : Int}
    (hn : x.toInt? = some n) : n < 0 := by
  have htoInt : x.toInt? = if (x.isFinite && decide (x.ratio.1 % x.ratio.2 = 0)) = true then
      some (x.signed (x.ratio.1 / x.ratio.2)) else none := rfl
  rw [htoInt, Option.ite_none_right_eq_some, Bool.and_eq_true, decide_eq_true_eq,
    Option.some.injEq] at hn
  obtain ⟨⟨hfinite, hwhole⟩, rfl⟩ := hn
  rw [isFinite, decide_eq_true_eq] at hfinite
  have hnumber : x.isNaN = false := by
    rw [isNaN, decide_eq_false_iff_not]
    omega
  rw [isNonnegative, hnumber] at hx
  simp only [Bool.not_false, Bool.true_and, Bool.or_eq_false_iff, Bool.not_eq_false',
    decide_eq_false_iff_not] at hx
  obtain ⟨hnegative, hmagnitude⟩ := hx
  have hquotient : 0 < x.ratio.1 / x.ratio.2 := by
    apply Nat.div_pos _ (den_ratio_pos x)
    exact Nat.le_of_dvd (ratio_pos hmagnitude) (Nat.dvd_of_mod_eq_zero hwhole)
  rw [signed, if_pos hnegative]
  omega

end WorkflowEngine.Binary64
