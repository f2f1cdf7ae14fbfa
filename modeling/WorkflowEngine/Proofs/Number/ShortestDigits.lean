import WorkflowEngine.Proofs.Number.Decimals

/-!
# The shortest decimal reads back

The search for the shortest decimal accepts only what the number owns.  It cannot fail,
since with seventeen digits the nearer neighbour of a number is close enough to it.  So
the shortest decimal is read as the number it was made from.
-/

namespace WorkflowEngine.Binary64

/-! ## The exponent of the first digit -/

/-- Powers are compared as their exponents are, in proportion to one comparison. -/
theorem pow_le_pow_of_scaled {a b c d m n : Nat} (hbase : a ^ c ≤ b ^ d) (hb : 0 < b)
    (hc : 0 < c) (hmn : d * m ≤ n * c) : a ^ m ≤ b ^ n := by
  apply (Nat.pow_le_pow_iff_left hc.ne').mp
  calc (a ^ m) ^ c = (a ^ c) ^ m := by rw [← Nat.pow_mul, ← Nat.pow_mul, Nat.mul_comm]
    _ ≤ (b ^ d) ^ m := Nat.pow_le_pow_left hbase m
    _ = b ^ (d * m) := (Nat.pow_mul b d m).symm
    _ ≤ b ^ (n * c) := Nat.pow_le_pow_right hb hmn
    _ = (b ^ n) ^ c := Nat.pow_mul b n c

theorem ten_pow_le_two_pow {k l : Nat} (h : 196 * k ≤ l * 59) : 10 ^ k ≤ 2 ^ l := by
  have hbase : 10 ^ 59 ≤ 2 ^ 196 := by norm_num
  exact pow_le_pow_of_scaled hbase (by decide) (by decide) h

theorem two_pow_le_ten_pow {k l : Nat} (h : 28 * l ≤ k * 93) : 2 ^ l ≤ 10 ^ k := by
  have hbase : 2 ^ 93 ≤ 10 ^ 28 := by norm_num
  exact pow_le_pow_of_scaled hbase (by decide) (by decide) h

/-- The estimate by powers of two is not too large by more than one. -/
theorem ten_zpow_le_two_zpow {k l : Int} (h : (k + 1) * 100000 ≤ l * 30103)
    (hlow : -2000 ≤ l) (hhigh : l ≤ 2000) : (10 : ℚ) ^ k ≤ 2 ^ l := by
  by_cases hsign : 0 ≤ l
  · by_cases hk : 0 ≤ k
    · have hpow : 10 ^ k.toNat ≤ 2 ^ l.toNat := ten_pow_le_two_pow (by omega)
      rw [zpow_eq_pow_toNat hk, zpow_eq_pow_toNat hsign]
      exact_mod_cast hpow
    · calc (10 : ℚ) ^ k ≤ 1 := zpow_le_one_of_nonpos₀ (by norm_num) (by omega)
        _ ≤ 2 ^ l := one_le_zpow₀ one_le_two hsign
  · have hpow : 2 ^ (-l).toNat ≤ 10 ^ (-k).toNat := two_pow_le_ten_pow (by omega)
    have hcast : (2 : ℚ) ^ (-l).toNat ≤ 10 ^ (-k).toNat := by exact_mod_cast hpow
    rw [zpow_eq_inv_pow_toNat (by omega), zpow_eq_inv_pow_toNat (by omega)]
    exact inv_anti₀ (by positivity) hcast

theorem belowPowerOfTen_iff {num den : Nat} (hden : 0 < den) (e : Int) :
    belowPowerOfTen num den e = true ↔ (num : ℚ) / den < 10 ^ e := by
  have hdenQ : (0 : ℚ) < den := by exact_mod_cast hden
  rw [belowPowerOfTen, div_lt_iff₀ hdenQ]
  split
  · next he =>
    rw [decide_eq_true_eq, zpow_eq_pow_toNat he, mul_comm]
    norm_cast
  · next he =>
    have hpow : (0 : ℚ) < 10 ^ (-e).toNat := by positivity
    rw [decide_eq_true_eq, zpow_eq_inv_pow_toNat (not_le.mp he), inv_mul_eq_div,
      lt_div_iff₀ hpow]
    norm_cast

/-- The power of ten below the one that was found does not exceed the quotient. -/
theorem ten_zpow_powerOfTenAbove_le {num den : Nat} (hnum : num ≠ 0) (hden : den ≠ 0)
    (hnumLog : num.log2 < 1100) (hdenLog : den.log2 < 1100) :
    (10 : ℚ) ^ (powerOfTenAbove num den - 1) ≤ num / den := by
  have hpos := Nat.pos_of_ne_zero hden
  have hstart : (10 : ℚ) ^
      (Int.fdiv (((num.log2 : Int) - den.log2 - 1) * 30103) 100000 - 1) ≤ num / den := by
    refine le_trans (ten_zpow_le_two_zpow ?_ ?_ ?_) (quotient_log2_bounds hnum hden).1
    · rw [Int.fdiv_eq_ediv_of_nonneg _ (by decide)]
      omega
    · omega
    · omega
  -- A candidate that was passed over is not above the quotient.
  have hpassed : ∀ e, belowPowerOfTen num den e = false → (10 : ℚ) ^ e ≤ num / den := by
    intro e he
    rw [← not_lt, ← belowPowerOfTen_iff hpos, he]
    simp
  rw [powerOfTenAbove]
  generalize Int.fdiv (((num.log2 : Int) - den.log2 - 1) * 30103) 100000 = start at hstart ⊢
  cases h0 : belowPowerOfTen num den start with
  | true => simpa [List.find?, h0] using hstart
  | false =>
    cases h1 : belowPowerOfTen num den (start + 1) with
    | true => simpa [List.find?, h0, h1] using hpassed _ h0
    | false =>
      have h2' : (10 : ℚ) ^ (start + 2 - 1) ≤ num / den := by
        rw [show start + 2 - 1 = start + 1 by ring]
        exact hpassed _ h1
      cases h2 : belowPowerOfTen num den (start + 2) with
      | true => simpa [List.find?, h0, h1, h2] using h2'
      | false =>
        have h3' : (10 : ℚ) ^ (start + 3 - 1) ≤ num / den := by
          rw [show start + 3 - 1 = start + 2 by ring]
          exact hpassed _ h2
        cases h3 : belowPowerOfTen num den (start + 3) with
        | true => simpa [List.find?, h0, h1, h2, h3] using h3'
        | false => simpa [List.find?, h0, h1, h2, h3] using h3'

/-! ## The search -/

theorem log2_ratio_lt {x : Binary64} (hfinite : x.isFinite = true) (hx : x.magnitude ≠ 0) :
    x.ratio.1.log2 < 1100 ∧ x.ratio.2.log2 < 1100 := by
  have hm := mantissa_pos hx
  have hlt := mantissa_lt x
  have hlow := le_power x
  have hhigh := power_le hfinite
  rw [leadingBit_eq] at hlt
  have hbits : x.mantissa < 2 ^ 53 := by norm_num; omega
  have hsmall : x.mantissa.log2 < 53 := (Nat.log2_lt hm.ne').mpr hbits
  rw [ratio, scaled]
  split
  · next hp =>
    have hone : Nat.log2 1 < 1100 := by decide
    refine ⟨?_, hone⟩
    have hprod : x.mantissa * 2 ^ x.power.toNat < 2 ^ (53 + x.power.toNat) := by
      rw [Nat.pow_add]
      exact Nat.mul_lt_mul_of_pos_right hbits (Nat.pow_pos (by decide))
    have hne : x.mantissa * 2 ^ x.power.toNat ≠ 0 := Nat.mul_ne_zero hm.ne' (by positivity)
    have hlog := (Nat.log2_lt hne).mpr hprod
    simp only [Nat.pow_eq]
    omega
  · refine ⟨by simpa using hsmall.trans (by decide), ?_⟩
    simp only [Nat.pow_eq, Nat.log2_two_pow]
    omega

/-- A number measured in units of a power of ten, as numerator and denominator. -/
def onGrid (x : Binary64) (e : Int) : Nat × Nat :=
  if 0 ≤ e then (x.ratio.1, x.ratio.2 * Nat.pow 10 e.toNat)
  else (x.ratio.1 * Nat.pow 10 (-e).toNat, x.ratio.2)

theorem den_onGrid_pos (x : Binary64) (e : Int) : 0 < (x.onGrid e).2 := by
  rw [onGrid]
  split
  · exact Nat.mul_pos x.den_ratio_pos (Nat.pow_pos (by decide))
  · exact x.den_ratio_pos

theorem quotient_onGrid (x : Binary64) (e : Int) :
    ((x.onGrid e).1 : ℚ) / (x.onGrid e).2 = x.value / 10 ^ e := by
  rw [onGrid, ← quotient_ratio]
  split
  · next he => simp [zpow_eq_pow_toNat he, div_div]
  · next he =>
    rw [zpow_eq_inv_pow_toNat (not_le.mp he), div_inv_eq_mul]
    push_cast
    rw [mul_div_right_comm]
    simp

/-- The multiple of a power of ten below a number. -/
def gridFloor (x : Binary64) (e : Int) : Nat := (x.onGrid e).1 / (x.onGrid e).2

/-- The neighbours of a number on a grid are the multiples next to it that it owns. -/
theorem mem_neighbours_iff {x : Binary64} (hx : x.magnitude ≠ 0) {e : Int} {c : Decimal} :
    c ∈ neighbours x e ↔
      (c = ⟨x.gridFloor e, e⟩ ∨ c = ⟨x.gridFloor e + 1, e⟩) ∧ c.digits ≠ 0 ∧
        x.Owns c.value := by
  have hform : ∀ cs : List Nat, (c ∈ (cs.map (Decimal.mk · e)).filter
      fun c => c.digits ≠ 0 && x.interval.contains c) ↔
        c ∈ cs.map (Decimal.mk · e) ∧ c.digits ≠ 0 ∧ x.Owns c.value := by
    intro cs
    rw [List.mem_filter, ← contains_interval_iff hx]
    simp
  have hunfold : neighbours x e =
      ((if (x.onGrid e).2 < 2 * ((x.onGrid e).1 % (x.onGrid e).2) ∨
          ((x.onGrid e).2 = 2 * ((x.onGrid e).1 % (x.onGrid e).2) ∧ x.gridFloor e % 2 = 1)
        then [x.gridFloor e + 1, x.gridFloor e] else [x.gridFloor e, x.gridFloor e + 1]).map
          (Decimal.mk · e)).filter fun c => c.digits ≠ 0 && x.interval.contains c :=
    rfl
  rw [hunfold, hform]
  split
  · simp only [List.map_cons, List.map_nil, List.mem_cons, List.not_mem_nil, or_false]
    rw [or_comm]
  · simp only [List.map_cons, List.map_nil, List.mem_cons, List.not_mem_nil, or_false]

theorem gridFloor_bounds (x : Binary64) (e : Int) :
    (x.gridFloor e : ℚ) * 10 ^ e ≤ x.value ∧ x.value < (x.gridFloor e + 1) * 10 ^ e := by
  have hpos := den_onGrid_pos x e
  have hposQ : (0 : ℚ) < (x.onGrid e).2 := by exact_mod_cast hpos
  have hunit : (0 : ℚ) < 10 ^ e := by positivity
  rw [← le_div_iff₀ hunit, ← div_lt_iff₀ hunit, ← quotient_onGrid, le_div_iff₀ hposQ,
    div_lt_iff₀ hposQ]
  constructor
  · exact_mod_cast Nat.div_mul_le_self (x.onGrid e).1 (x.onGrid e).2
  · have h := Nat.lt_mul_div_succ (x.onGrid e).1 hpos
    rw [Nat.mul_comm] at h
    exact_mod_cast h

/-- A rational close enough to a number is owned by it. -/
theorem owns_of_near {x : Binary64} {v : ℚ}
    (hlow : x.value - x.value / (2 * 10 ^ 16) ≤ v)
    (hhigh : v ≤ x.value + x.value / (2 * 10 ^ 16)) :
    x.Owns v := by
  have hunit : (0 : ℚ) < 2 ^ x.power := by positivity
  have hmantissa : (x.mantissa : ℚ) < 10 ^ 16 := by
    have hlt := mantissa_lt x
    rw [leadingBit_eq] at hlt
    have hcast : (x.mantissa : ℚ) < (2 * 4503599627370496 : Nat) := by exact_mod_cast hlt
    exact hcast.trans (by norm_num)
  have hgap : x.value / (2 * 10 ^ 16) < 1 / 2 * 2 ^ x.power := by
    rw [div_lt_iff₀ (by positivity), value]
    calc (x.mantissa : ℚ) * 2 ^ x.power < 10 ^ 16 * 2 ^ x.power :=
          mul_lt_mul_of_pos_right hmantissa hunit
      _ = 1 / 2 * 2 ^ x.power * (2 * 10 ^ 16) := by ring
  have habove : (x.mantissa - 1 / 2 : ℚ) * 2 ^ x.power < v := by
    calc (x.mantissa - 1 / 2 : ℚ) * 2 ^ x.power = x.value - 1 / 2 * 2 ^ x.power := by
          rw [value]
          ring
      _ < x.value - x.value / (2 * 10 ^ 16) := by linarith
      _ ≤ v := hlow
  have hbelow : v < (x.mantissa + 1 / 2 : ℚ) * 2 ^ x.power := by
    calc v ≤ x.value + x.value / (2 * 10 ^ 16) := hhigh
      _ < x.value + 1 / 2 * 2 ^ x.power := by linarith
      _ = (x.mantissa + 1 / 2 : ℚ) * 2 ^ x.power := by
          rw [value]
          ring
  refine ⟨habove.le, hbelow.le, Or.inr ⟨habove, hbelow⟩, fun hnarrow => ?_⟩
  -- A power of two has the least mantissa, so the narrow gap is still wide enough.
  have hquarter : x.value / (2 * 10 ^ 16) ≤ 1 / 4 * 2 ^ x.power := by
    rw [div_le_iff₀ (by positivity), value, hnarrow.1, leadingBit_eq]
    calc ((4503599627370496 : Nat) : ℚ) * 2 ^ x.power ≤ (10 ^ 16 / 2) * 2 ^ x.power :=
          mul_le_mul_of_nonneg_right (by norm_num) hunit.le
      _ = 1 / 4 * 2 ^ x.power * (2 * 10 ^ 16) := by ring
  calc (x.mantissa - 1 / 4 : ℚ) * 2 ^ x.power = x.value - 1 / 4 * 2 ^ x.power := by
        rw [value]
        ring
    _ ≤ x.value - x.value / (2 * 10 ^ 16) := by linarith
    _ ≤ v := hlow

/-- On a fine grid the nearer neighbour of a number is one that the number owns. -/
theorem exists_mem_neighbours {x : Binary64} (hx : x.magnitude ≠ 0) {e : Int}
    (hgrid : (10 : ℚ) ^ (e + 16) ≤ x.value) : ∃ c, c ∈ neighbours x e := by
  have hunit : (0 : ℚ) < 10 ^ e := by positivity
  obtain ⟨hfloor, hceil⟩ := gridFloor_bounds x e
  have hstep : (10 : ℚ) ^ e * 10 ^ 16 ≤ x.value := by
    rwa [zpow_add₀ (by norm_num), zpow_ofNat] at hgrid
  by_cases hnear : x.value - x.gridFloor e * 10 ^ e ≤ 10 ^ e / 2
  · refine ⟨⟨x.gridFloor e, e⟩, (mem_neighbours_iff hx).mpr ⟨Or.inl rfl, ?_, ?_⟩⟩
    · intro hzero
      change x.gridFloor e = 0 at hzero
      rw [hzero] at hceil
      norm_num at hceil hstep
      linarith
    · apply owns_of_near
      · rw [Decimal.value]
        norm_num at hstep ⊢
        linarith
      · rw [Decimal.value]
        norm_num at hstep ⊢
        linarith
  · refine ⟨⟨x.gridFloor e + 1, e⟩, (mem_neighbours_iff hx).mpr ⟨Or.inr rfl, ?_, ?_⟩⟩
    · exact Nat.succ_ne_zero _
    · apply owns_of_near
      · rw [Decimal.value]
        push_cast
        norm_num at hstep ⊢
        linarith
      · rw [Decimal.value]
        push_cast
        norm_num at hstep ⊢
        linarith

/-- The search for the shortest decimal finds a neighbour on one of the grids. -/
theorem exists_shortest_eq {x : Binary64} (hfinite : x.isFinite = true)
    (hx : x.magnitude ≠ 0) :
    ∃ e c, c ∈ neighbours x e ∧ x.shortest = c.dropZeros 400 := by
  obtain ⟨hnumLog, hdenLog⟩ := log2_ratio_lt hfinite hx
  have hnum : x.ratio.1 ≠ 0 := by
    intro hzero
    have hvalue := quotient_ratio x
    have hpos : 0 < x.value :=
      mul_pos (by exact_mod_cast mantissa_pos hx) (by positivity)
    rw [hzero] at hvalue
    simp at hvalue
    linarith
  have habove := ten_zpow_powerOfTenAbove_le hnum x.den_ratio_pos.ne' hnumLog hdenLog
  rw [quotient_ratio] at habove
  have hunfold : x.shortest =
      (((List.range 17).findSome? fun i =>
        (neighbours x (powerOfTenAbove x.ratio.1 x.ratio.2 - (i + 1 : Nat))).head?).getD
          ⟨x.ratio.1, 0⟩).dropZeros 400 :=
    rfl
  rw [hunfold]
  generalize powerOfTenAbove x.ratio.1 x.ratio.2 = above at habove ⊢
  cases hfound : (List.range 17).findSome? fun i =>
      (neighbours x (above - (i + 1 : Nat))).head? with
  | some c =>
    obtain ⟨i, -, hi⟩ := List.exists_of_findSome?_eq_some hfound
    exact ⟨_, c, List.mem_of_mem_head? hi, rfl⟩
  | none =>
    have hlast := List.findSome?_eq_none_iff.mp hfound 16 (by decide)
    have hgrid : (10 : ℚ) ^ (above - (16 + 1 : Nat) + 16) ≤ x.value := by
      rwa [show above - ((16 + 1 : Nat) : Int) + 16 = above - 1 by push_cast; ring]
    obtain ⟨c, hc⟩ := exists_mem_neighbours hx hgrid
    rw [List.head?_eq_none_iff] at hlast
    rw [hlast] at hc
    simp at hc

/-- The shortest decimal of a number is one that the number owns. -/
theorem owns_shortest {x : Binary64} (hfinite : x.isFinite = true) (hx : x.magnitude ≠ 0) :
    x.Owns x.shortest.value := by
  obtain ⟨e, c, hc, hshortest⟩ := exists_shortest_eq hfinite hx
  rw [hshortest, Decimal.value_dropZeros]
  exact ((mem_neighbours_iff hx).mp hc).2.2

theorem digits_shortest_ne_zero {x : Binary64} (hfinite : x.isFinite = true)
    (hx : x.magnitude ≠ 0) : x.shortest.digits ≠ 0 := by
  obtain ⟨e, c, hc, hshortest⟩ := exists_shortest_eq hfinite hx
  rw [hshortest]
  exact Decimal.digits_dropZeros_ne_zero _ ((mem_neighbours_iff hx).mp hc).2.1

/-- A decimal of the same value as the shortest one is read as the number. -/
theorem ofDecimal_eq_of_value {x : Binary64} (hfinite : x.isFinite = true)
    (hx : x.magnitude ≠ 0) {digits : Nat} {exponent : Int}
    (hvalue : (digits : ℚ) * 10 ^ exponent = x.shortest.value) :
    ofDecimal x.negative digits exponent = x := by
  have howns := owns_shortest hfinite hx
  rw [← hvalue] at howns
  rw [howns.ofDecimal_eq hfinite hx, ofSign_magnitude]

end WorkflowEngine.Binary64
