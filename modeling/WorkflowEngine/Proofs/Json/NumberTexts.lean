import WorkflowEngine.Proofs.Json.Numbers
import WorkflowEngine.Proofs.Number.ShortestDigits

/-!
# Numbers are read as written

The text of a finite number is a spelling of its shortest decimal, in positional or in
exponent notation, and so it is read as the number itself.  The text of an integer is
read as the integer.
-/

namespace WorkflowEngine.Json

/-! ## Spellings of decimals -/

/-- A text without sign that is read as the number nearest to a rational. -/
structure Spells (body : List Char) (v : ℚ) : Prop where
  starts : ∃ c cs, body = c :: cs ∧ isDigit c = true
  reads : ∃ (digits : Nat) (exponent : Int), (digits : ℚ) * 10 ^ exponent = v ∧
    ∀ start negative rest, EndsNumber rest →
      readNumber start negative (body ++ rest) =
        .ok (.float (.ofDecimal negative digits exponent), rest)

theorem spells_fraction {whole places : List Char} (hwhole : IsWhole whole)
    (hne : places ≠ []) (hplaces : ∀ c ∈ places, isDigit c = true) :
    Spells (whole ++ '.' :: places)
      (natOfDigits (whole ++ places) * 10 ^ (-(places.length : Int))) where
  starts := hwhole.starts _
  reads := ⟨_, _, rfl, fun _ _ _ hrest => readNumber_fraction hwhole hne hplaces hrest⟩

theorem spells_exponent (below : Bool) {whole places ds : List Char} (hwhole : IsWhole whole)
    (hplaces : ∀ c ∈ places, isDigit c = true) (hne : ds ≠ [])
    (hds : ∀ c ∈ ds, isDigit c = true) :
    Spells (whole ++ pointed places ++ exponentText below ds)
      (natOfDigits (whole ++ places) * 10 ^ (exponentValue below ds - places.length)) where
  starts := by
    rw [List.append_assoc]
    exact hwhole.starts _
  reads := ⟨_, _, rfl, fun _ _ _ hrest => readNumber_exponent hwhole hplaces hne hds hrest⟩

/-- Digits with a point among them, and the number they spell. -/
def Positional (text : List Char) (v : ℚ) : Prop :=
  ∃ whole places, IsWhole whole ∧ places ≠ [] ∧ (∀ c ∈ places, isDigit c = true) ∧
    text = whole ++ '.' :: places ∧
    (natOfDigits (whole ++ places) : ℚ) * 10 ^ (-(places.length : Int)) = v

/-- Digits with an exponent behind them, perhaps with a point among them, and the number
they spell. -/
def Exponential (text : List Char) (v : ℚ) : Prop :=
  ∃ whole places below ds, IsWhole whole ∧ (∀ c ∈ places, isDigit c = true) ∧ ds ≠ [] ∧
    (∀ c ∈ ds, isDigit c = true) ∧ text = whole ++ pointed places ++ exponentText below ds ∧
    (natOfDigits (whole ++ places) : ℚ) * 10 ^ (exponentValue below ds - places.length) = v

theorem Positional.spells {text : List Char} {v : ℚ} (h : Positional text v) :
    Spells text v := by
  obtain ⟨whole, places, hwhole, hne, hplaces, rfl, rfl⟩ := h
  exact spells_fraction hwhole hne hplaces

theorem Exponential.spells {text : List Char} {v : ℚ} (h : Exponential text v) :
    Spells text v := by
  obtain ⟨whole, places, below, ds, hwhole, hplaces, hne, hds, rfl, rfl⟩ := h
  exact spells_exponent below hwhole hplaces hne hds

/-- Positional notation of a decimal without places. -/
theorem positional_plainChars_of_nonneg {d : Decimal} (hd : d.digits ≠ 0)
    (he : 0 ≤ d.exponent) : Positional d.plainChars d.value := by
  have hwhole : IsWhole (digitChars d.digits ++ List.replicate d.exponent.toNat '0') := by
    refine ⟨?_, ?_, ?_⟩
    · intro c hc
      rcases List.mem_append.mp hc with hc | hc
      · exact isDigit_of_mem_digitChars hc
      · rw [List.eq_of_mem_replicate hc]
        decide
    · simp [digitChars_ne_nil]
    · intro hhead
      rw [List.head?_append_of_ne_nil _ (digitChars_ne_nil _)] at hhead
      exact absurd hhead (head?_digitChars_ne_zero hd)
  have hchars : d.plainChars =
      digitChars d.digits ++ List.replicate d.exponent.toNat '0' ++ '.' :: ['0'] := by
    rw [Decimal.plainChars]
    exact if_pos he
  have hvalue : ((natOfDigits (digitChars d.digits ++
      List.replicate d.exponent.toNat '0' ++ ['0']) : Nat) : ℚ) *
        10 ^ (-((['0'] : List Char).length : Int)) = d.value := by
    rw [natOfDigits_append, natOfDigits_append, natOfDigits_replicate_zero,
      natOfDigits_digitChars, List.length_replicate, Decimal.value,
      Binary64.zpow_eq_pow_toNat he]
    have hzero : natOfDigits ['0'] = 0 := by decide
    rw [hzero]
    push_cast
    norm_num
    ring
  exact ⟨_, _, hwhole, isWhole_zero.nonempty, isWhole_zero.digits, hchars, hvalue⟩

/-- Positional notation of a decimal with places. -/
theorem positional_plainChars_of_neg {d : Decimal} (hd : d.digits ≠ 0) (he : d.exponent < 0) :
    Positional d.plainChars d.value := by
  set k := (-d.exponent).toNat with hk
  set padded := padLeft (k + 1) (digitChars d.digits) with hpadded
  have hlength : padded.length = max (k + 1) (digitChars d.digits).length :=
    length_padLeft _ _
  have hdigits : ∀ c ∈ padded, isDigit c = true :=
    fun c hc => isDigit_of_mem_padLeft (fun c hc => isDigit_of_mem_digitChars hc) hc
  have hplaces : (padded.drop (padded.length - k)).length = k := by
    rw [List.length_drop]
    omega
  have hwhole : IsWhole (padded.take (padded.length - k)) := by
    have hcount : (padded.take (padded.length - k)).length = padded.length - k := by
      rw [List.length_take]
      omega
    refine ⟨fun c hc => hdigits c (List.mem_of_mem_take hc), ?_, ?_⟩
    · intro hnil
      rw [hnil, List.length_nil] at hcount
      omega
    · intro hhead
      by_cases hlong : k + 1 ≤ (digitChars d.digits).length
      · -- Without padding the first digit is that of the decimal.
        have hsame : padded = digitChars d.digits := by
          rw [hpadded, padLeft, Nat.sub_eq_zero_of_le hlong]
          rfl
        rw [List.head?_take, if_neg (by omega), hsame] at hhead
        exact absurd hhead (head?_digitChars_ne_zero hd)
      · -- With padding the whole part is a single zero.
        have hone : (padded.take (padded.length - k)).length = 1 := by omega
        obtain ⟨c, hc⟩ := List.length_eq_one_iff.mp hone
        rw [hc, List.head?_cons, Option.some.injEq] at hhead
        rw [hc, hhead]
  have hne : padded.drop (padded.length - k) ≠ [] := by
    intro hnil
    rw [hnil, List.length_nil] at hplaces
    omega
  have hchars : d.plainChars =
      padded.take (padded.length - k) ++ '.' :: padded.drop (padded.length - k) := by
    rw [Decimal.plainChars]
    exact if_neg (not_le.mpr he)
  have hexponent : -((padded.drop (padded.length - k)).length : Int) = d.exponent := by
    rw [hplaces]
    omega
  refine ⟨_, _, hwhole, hne, fun c hc => hdigits c (List.mem_of_mem_drop hc), hchars, ?_⟩
  rw [hexponent, List.take_append_drop, hpadded, natOfDigits_padLeft, natOfDigits_digitChars,
    Decimal.value]

/-- Exponent notation of a decimal. -/
theorem exponential_exponentChars (width : Nat) (d : Decimal) :
    Exponential (d.exponentChars width) d.value := by
  obtain ⟨c, cs, hcs⟩ := List.exists_cons_of_ne_nil (digitChars_ne_nil d.digits)
  have hdigits : ∀ b ∈ c :: cs, isDigit b = true := by
    rw [← hcs]
    exact fun b hb => isDigit_of_mem_digitChars hb
  have hwhole : IsWhole [c] := by
    refine ⟨fun b hb => hdigits b (by simp_all), by simp, ?_⟩
    intro hhead
    rw [List.head?_cons, Option.some.injEq] at hhead
    rw [hhead]
  set below : Bool := decide (d.leadingExponent < 0) with hbelow
  set ds := padLeft width (digitChars d.leadingExponent.natAbs) with hds
  have hdsDigits : ∀ b ∈ ds, isDigit b = true :=
    fun b hb => isDigit_of_mem_padLeft (fun b hb => isDigit_of_mem_digitChars hb) hb
  have hdsNe : ds ≠ [] := by
    rw [hds, padLeft]
    simp [digitChars_ne_nil]
  have hchars : d.exponentChars width = [c] ++ pointed cs ++ exponentText below ds := by
    rw [Decimal.exponentChars, hcs]
    cases cs with
    | nil => simp [pointed, exponentText, hbelow, hds]
    | cons b bs => simp [pointed, exponentText, hbelow, hds]
  have hexponent : exponentValue below ds - (cs.length : Int) = d.exponent := by
    have hvalue : exponentValue below ds = d.leadingExponent := by
      rw [exponentValue, hds, natOfDigits_padLeft, natOfDigits_digitChars, hbelow]
      by_cases hneg : d.leadingExponent < 0
      · simp only [hneg, decide_true, if_true]
        omega
      · simp only [hneg, decide_false, Bool.false_eq_true, if_false]
        omega
    rw [hvalue, Decimal.leadingExponent, hcs, List.length_cons]
    push_cast
    ring
  have hall : [c] ++ cs = digitChars d.digits := hcs.symm
  refine ⟨_, _, below, _, hwhole, fun b hb => hdigits b (List.mem_cons_of_mem c hb), hdsNe,
    hdsDigits, hchars, ?_⟩
  rw [hexponent, hall, natOfDigits_digitChars, Decimal.value]

/-! ## Numbers with their signs -/

/-- The sign of a number as it is written. -/
def signChars (negative : Bool) : List Char := if negative then ['-'] else []

/-- A text that begins like a number is none of the literal words. -/
theorem findSome?_words_eq_none (negative : Bool) {c : Char} (hc : isDigit c = true)
    (cs : List Char) :
    (words.findSome? fun (word, j) =>
      (after? word (signChars negative ++ c :: cs)).map (j, ·)) = none := by
  have hne : ∀ l : Char, isDigit l = false → l ≠ c := by
    rintro l hl rfl
    rw [hc] at hl
    contradiction
  have hn : 'n' ≠ c := hne _ (by decide)
  have ht : 't' ≠ c := hne _ (by decide)
  have hf : 'f' ≠ c := hne _ (by decide)
  have hN : 'N' ≠ c := hne _ (by decide)
  have hI : 'I' ≠ c := hne _ (by decide)
  have hminus : '-' ≠ c := hne _ (by decide)
  cases negative with
  | true => simp [words, after?, signChars, hI]
  | false => simp [words, after?, signChars, hn, ht, hf, hN, hI, hminus]

/-- A text that is read as a number: perhaps a sign, and a body that begins with a
digit. -/
def IsNumberText (text : List Char) (j : Json) : Prop :=
  ∃ negative body, text = signChars negative ++ body ∧
    (∃ c cs, body = c :: cs ∧ isDigit c = true) ∧
    ∀ start rest, EndsNumber rest → readNumber start negative (body ++ rest) = .ok (j, rest)

/-- A text that begins with a sign and a digit is read as a number. -/
theorem readPlain_signChars {negative : Bool} {c : Char} (hc : isDigit c = true)
    (cs : List Char) :
    readPlain (signChars negative ++ c :: cs) =
      readNumber (signChars negative ++ c :: cs) negative (c :: cs) := by
  have hnone := findSome?_words_eq_none negative hc cs
  cases negative with
  | true =>
    rw [readPlain.eq_def, hnone]
    rfl
  | false =>
    have hminus : ∀ more, signChars false ++ c :: cs ≠ '-' :: more := by
      intro more heq
      rw [signChars, if_neg (by decide), List.nil_append] at heq
      injection heq with hhead
      rw [hhead] at hc
      revert hc
      decide
    rw [readPlain.eq_def, hnone]
    dsimp only
    split
    · next heq => exact absurd heq (hminus _)
    · rfl

theorem readPlain_of_isNumberText {text rest : List Char} {j : Json} (h : IsNumberText text j)
    (hrest : EndsNumber rest) : readPlain (text ++ rest) = .ok (j, rest) := by
  obtain ⟨negative, body, rfl, ⟨c, cs, rfl, hc⟩, hreads⟩ := h
  rw [List.append_assoc, List.cons_append, readPlain_signChars hc]
  exact hreads _ rest hrest

/-- The text of an integer is read as the integer. -/
theorem isNumberText_intChars {n : Int} (hn : (digitChars n.natAbs).length ≤ digitLimit) :
    IsNumberText (intChars n) (.int n) := by
  have hwhole := isWhole_digitChars n.natAbs
  refine ⟨decide (n < 0), digitChars n.natAbs, ?_, by simpa using hwhole.starts [], ?_⟩
  · by_cases hneg : n < 0
    · simp [intChars, signChars, hneg]
    · simp [intChars, signChars, hneg]
  · intro start rest hrest
    rw [readNumber_digits hwhole hrest, if_neg (Nat.not_lt.mpr hn), natOfDigits_digitChars]
    by_cases hneg : n < 0
    · simp only [hneg, decide_true, if_true]
      rw [show -(n.natAbs : Int) = n by omega]
    · simp only [hneg, decide_false, Bool.false_eq_true, if_false]
      rw [show (n.natAbs : Int) = n by omega]

/-- The text of a number other than zero is its sign and its shortest decimal in one of
the two notations. -/
theorem exists_floatChars (f : FloatFormat) {x : Binary64} (hfinite : x.isFinite = true)
    (hx : x.magnitude ≠ 0) :
    ∃ body, f.chars x = signChars x.negative ++ body ∧
      (Positional body x.shortest.value ∨ Exponential body x.shortest.value) := by
  have hnan : x.isNaN = false := by
    rw [Binary64.isFinite, decide_eq_true_eq] at hfinite
    rw [Binary64.isNaN, decide_eq_false_iff_not]
    omega
  have hdigits := Binary64.digits_shortest_ne_zero hfinite hx
  have htext : f.chars x = signChars x.negative ++
      if f.leastPlain ≤ x.shortest.leadingExponent ∧ x.shortest.leadingExponent < 16
      then x.shortest.plainChars else x.shortest.exponentChars f.exponentWidth := by
    simp only [FloatFormat.chars, hnan, hfinite, hx, Bool.false_eq_true, Bool.not_true,
      if_false, signChars]
    split
    · rfl
    · rfl
  refine ⟨_, htext, ?_⟩
  split
  · rcases le_or_gt 0 x.shortest.exponent with he | he
    · exact Or.inl (positional_plainChars_of_nonneg hdigits he)
    · exact Or.inl (positional_plainChars_of_neg hdigits he)
  · exact Or.inr (exponential_exponentChars _ _)

/-- Zero is written with a point and its sign. -/
theorem floatChars_of_magnitude_eq_zero (f : FloatFormat) {x : Binary64}
    (hx : x.magnitude = 0) : f.chars x = signChars x.negative ++ ['0', '.', '0'] := by
  have hnan : x.isNaN = false := by
    rw [Binary64.isNaN, hx]
    decide
  have hfinite : x.isFinite = true := by
    rw [Binary64.isFinite, hx]
    decide
  simp only [FloatFormat.chars, hnan, hfinite, hx, Bool.false_eq_true, Bool.not_true,
    if_false, if_true, signChars]

/-- The text of a finite number is read as the number. -/
theorem isNumberText_floatChars (f : FloatFormat) {x : Binary64} (hfinite : x.isFinite = true) :
    IsNumberText (f.chars x) (.float x) := by
  by_cases hx : x.magnitude = 0
  · refine ⟨x.negative, ['0', '.', '0'], floatChars_of_magnitude_eq_zero f hx,
      ⟨'0', ['.', '0'], rfl, by decide⟩, fun start rest hrest => ?_⟩
    refine (readNumber_fraction isWhole_zero isWhole_zero.nonempty isWhole_zero.digits
      hrest).trans ?_
    have hzero : Binary64.ofDecimal x.negative (natOfDigits (['0'] ++ ['0']))
        (-(((['0'] : List Char).length : Nat) : Int)) = .zero x.negative :=
      if_pos (by decide)
    have hself := Binary64.ofSign_magnitude x
    rw [hx] at hself
    rw [hzero, Binary64.zero, hself]
  · obtain ⟨body, htext, hnotation⟩ := exists_floatChars f hfinite hx
    have hspells : Spells body x.shortest.value :=
      hnotation.elim Positional.spells Exponential.spells
    obtain ⟨digits, exponent, hvalue, hreads⟩ := hspells.reads
    refine ⟨x.negative, body, htext, hspells.starts, fun start rest hrest => ?_⟩
    rw [hreads _ _ _ hrest, Binary64.ofDecimal_eq_of_value hfinite hx hvalue]

end WorkflowEngine.Json
