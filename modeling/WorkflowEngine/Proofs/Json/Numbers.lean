import WorkflowEngine.Json.Writer
import WorkflowEngine.Proofs.Number.Digits

/-!
# How numbers are read

A number is read up to the first character that could not go on with it: its whole
part, the digits behind a point and an exponent.  The three statements below say which
value each of the spellings has.
-/

namespace WorkflowEngine.Json

/-! ## Where a number ends -/

/-- No character that could go on with a number comes first. -/
def EndsNumber (rest : List Char) : Prop :=
  ∀ c, rest.head? = some c → isDigit c = false ∧ c ≠ '.' ∧ c ≠ 'e' ∧ c ≠ 'E'

theorem takeWhile_isDigit_append {ds rest : List Char} (hds : ∀ c ∈ ds, isDigit c = true)
    (hrest : ∀ c, rest.head? = some c → isDigit c = false) :
    (ds ++ rest).takeWhile isDigit = ds := by
  rw [List.takeWhile_append_of_pos hds]
  cases rest with
  | nil => simp
  | cons c rest => simp [hrest c rfl]

theorem integerPart_append {whole rest : List Char} (hwhole : IsWhole whole)
    (hrest : ∀ c, rest.head? = some c → isDigit c = false) :
    integerPart (whole ++ rest) = whole := by
  by_cases hzero : whole.head? = some '0'
  · rw [hwhole.leading hzero]
    rfl
  · obtain ⟨c, cs, hcons⟩ := List.exists_cons_of_ne_nil hwhole.nonempty
    have hc : c ≠ '0' := by
      rintro rfl
      exact hzero (by rw [hcons]; rfl)
    have hread : integerPart (whole ++ rest) = (whole ++ rest).takeWhile isDigit := by
      rw [hcons, List.cons_append, integerPart.eq_2]
      intro tail htail
      injection htail with hhead
      exact hc hhead
    rw [hread, takeWhile_isDigit_append hwhole.digits hrest]

/-! ## Fractions and exponents -/

/-- Digits behind a point, or nothing if there are none. -/
def pointed : List Char → List Char
  | [] => []
  | places => '.' :: places

theorem pointed_of_ne_nil {places : List Char} (hplaces : places ≠ []) :
    pointed places = '.' :: places := by
  cases places with
  | nil => contradiction
  | cons c cs => rfl

theorem fractionPart_pointed {places rest : List Char} (hplaces : ∀ c ∈ places, isDigit c = true)
    (hrest : ∀ c, rest.head? = some c → isDigit c = false ∧ c ≠ '.') :
    fractionPart (pointed places ++ rest) = if places = [] then none else some places := by
  by_cases hempty : places = []
  · subst hempty
    rw [if_pos rfl, pointed, List.nil_append]
    cases rest with
    | nil => rfl
    | cons c rest =>
      rw [fractionPart.eq_2]
      intro tail htail
      injection htail with hhead
      exact (hrest c rfl).2 hhead
  · have htake := takeWhile_isDigit_append hplaces fun c hc => (hrest c hc).1
    rw [if_neg hempty, pointed_of_ne_nil hempty, List.cons_append, fractionPart]
    simp only [htake, List.isEmpty_iff, hempty, if_false]

theorem exponentPart_eq_none {rest : List Char} (hrest : EndsNumber rest) :
    exponentPart rest = none := by
  cases rest with
  | nil => rfl
  | cons c rest =>
    have hc := hrest c rfl
    simp only [exponentPart, hc.2.2.1, hc.2.2.2, or_self, if_false]

/-- An exponent as it is written: its sign always stands before its digits. -/
def exponentText (negative : Bool) (ds : List Char) : List Char :=
  'e' :: (if negative then '-' else '+') :: ds

/-- The value of an exponent. -/
def exponentValue (negative : Bool) (ds : List Char) : Int :=
  if negative then -(natOfDigits ds : Int) else natOfDigits ds

theorem exponentPart_exponentText (negative : Bool) {ds rest : List Char} (hne : ds ≠ [])
    (hds : ∀ c ∈ ds, isDigit c = true)
    (hrest : ∀ c, rest.head? = some c → isDigit c = false) :
    exponentPart (exponentText negative ds ++ rest) =
      some (exponentValue negative ds, (exponentText negative ds).length) := by
  have htake := takeWhile_isDigit_append hds hrest
  cases negative with
  | true =>
    simp only [exponentText, exponentPart, exponentValue, List.cons_append, htake,
      List.isEmpty_iff, hne, List.length_cons, if_true, if_false, true_or]
    congr 2 <;> omega
  | false =>
    simp only [exponentText, exponentPart, exponentValue, List.cons_append, htake,
      List.isEmpty_iff, hne, List.length_cons, if_true, if_false, true_or, Bool.false_eq_true]
    congr 2 <;> omega

/-! ## Numbers -/

/-- Digits alone are read as an integer, unless there are too many. -/
theorem readNumber_digits {start whole rest : List Char} {negative : Bool}
    (hwhole : IsWhole whole) (hrest : EndsNumber rest) :
    readNumber start negative (whole ++ rest) =
      if digitLimit < whole.length then .error (.tooManyDigits whole.length)
      else
        .ok (.int (if negative then -(natOfDigits whole : Int) else natOfDigits whole),
          rest) := by
  have hint := integerPart_append hwhole fun c hc => (hrest c hc).1
  have hfraction : fractionPart rest = none := by
    have h : fractionPart (pointed [] ++ rest) = _ :=
      fractionPart_pointed (by simp) fun c hc => ⟨(hrest c hc).1, (hrest c hc).2.1⟩
    simpa [pointed] using h
  have hexponent := exponentPart_eq_none hrest
  simp only [readNumber, hint, List.isEmpty_iff, hwhole.nonempty, if_false, List.drop_left,
    hfraction, hexponent, Option.isNone_none, and_self, if_true]

/-- Digits with a point among them are read as the number nearest to the decimal. -/
theorem readNumber_fraction {start whole places rest : List Char} {negative : Bool}
    (hwhole : IsWhole whole) (hne : places ≠ [])
    (hplaces : ∀ c ∈ places, isDigit c = true) (hrest : EndsNumber rest) :
    readNumber start negative (whole ++ '.' :: places ++ rest) =
      .ok (.float (.ofDecimal negative (natOfDigits (whole ++ places)) (-(places.length : Int))),
        rest) := by
  have hint : integerPart (whole ++ '.' :: (places ++ rest)) = whole := by
    apply integerPart_append hwhole
    intro c hc
    rw [List.head?_cons, Option.some.injEq] at hc
    subst hc
    decide
  have hfraction : fractionPart ('.' :: (places ++ rest)) = some places := by
    have h := fractionPart_pointed hplaces fun c hc => ⟨(hrest c hc).1, (hrest c hc).2.1⟩
    rwa [if_neg hne, pointed_of_ne_nil hne, List.cons_append] at h
  have hdrop : ('.' :: (places ++ rest)).drop (places.length + 1) = rest := by simp
  have hexponent := exponentPart_eq_none hrest
  rw [List.append_assoc, List.cons_append]
  simp only [readNumber, hint, List.isEmpty_iff, hwhole.nonempty, if_false, List.drop_left,
    hfraction, hdrop, hexponent, Option.isNone_some, Bool.false_eq_true, false_and,
    Option.getD_some, Option.map_none, Option.getD_none]
  congr 4
  omega

/-- Digits with an exponent behind them, and perhaps a point among them, are read as the
number nearest to the decimal. -/
theorem readNumber_exponent {start whole places ds rest : List Char} {negative below : Bool}
    (hwhole : IsWhole whole) (hplaces : ∀ c ∈ places, isDigit c = true) (hne : ds ≠ [])
    (hds : ∀ c ∈ ds, isDigit c = true) (hrest : EndsNumber rest) :
    readNumber start negative (whole ++ pointed places ++ exponentText below ds ++ rest) =
      .ok (.float (.ofDecimal negative (natOfDigits (whole ++ places))
        (exponentValue below ds - places.length)), rest) := by
  have hletter : ∀ c, (exponentText below ds ++ rest).head? = some c → c = 'e' := by
    intro c hc
    rw [exponentText, List.cons_append, List.head?_cons, Option.some.injEq] at hc
    exact hc.symm
  have hfraction : fractionPart (pointed places ++ (exponentText below ds ++ rest)) =
      if places = [] then none else some places := by
    apply fractionPart_pointed hplaces
    intro c hc
    rw [hletter c hc]
    decide
  have hint : integerPart (whole ++ (pointed places ++ (exponentText below ds ++ rest))) =
      whole := by
    apply integerPart_append hwhole
    intro c hc
    cases places with
    | nil =>
      rw [hletter c (by simpa [pointed] using hc)]
      decide
    | cons d places =>
      rw [pointed_of_ne_nil (by simp), List.cons_append, List.head?_cons,
        Option.some.injEq] at hc
      subst hc
      decide
  have hexponent := exponentPart_exponentText below hne hds
    fun c hc => (hrest c hc).1
  rw [List.append_assoc, List.append_assoc]
  by_cases hempty : places = []
  · subst hempty
    have hpointed : pointed ([] : List Char) = [] := rfl
    rw [hpointed, List.nil_append] at hint hfraction ⊢
    simp only [readNumber, hint, List.isEmpty_iff, hwhole.nonempty, if_false, List.drop_left,
      hfraction, if_true, hexponent, Option.isNone_some, Bool.false_eq_true, and_false,
      Option.getD_none, Option.map_some, Option.getD_some, List.length_nil]
  · have hdrop : (pointed places ++ (exponentText below ds ++ rest)).drop (places.length + 1) =
        exponentText below ds ++ rest := by
      rw [pointed_of_ne_nil hempty]
      simp
    simp only [readNumber, hint, List.isEmpty_iff, hwhole.nonempty, if_false, List.drop_left,
      hfraction, hempty, hdrop, hexponent, Option.isNone_some, Bool.false_eq_true, and_false,
      Option.getD_some, Option.map_some]

end WorkflowEngine.Json
