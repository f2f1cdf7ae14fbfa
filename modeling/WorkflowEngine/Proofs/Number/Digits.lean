import Mathlib.Algebra.Ring.Nat
import Mathlib.Data.List.Basic
import WorkflowEngine.Json.Reader
import WorkflowEngine.Number.Format

/-!
# Decimal digits

The digits of a natural number spell it, and the first of them is no zero.  A number
spelled by a list of digits has at most that many digits.
-/

namespace WorkflowEngine

namespace Json

theorem isDigit_eq_isDigit (c : Char) : isDigit c = c.isDigit := by
  rw [isDigit, Char.isDigit]
  rfl

theorem natOfDigits_eq_ofDigitChars (cs : List Char) :
    natOfDigits cs = Nat.ofDigitChars 10 cs 0 :=
  rfl

theorem natOfDigits_append (cs ds : List Char) :
    natOfDigits (cs ++ ds) = 10 ^ ds.length * natOfDigits cs + natOfDigits ds := by
  rw [natOfDigits_eq_ofDigitChars, Nat.ofDigitChars_append,
    Nat.ofDigitChars_eq_ofDigitChars_zero]
  rfl

theorem natOfDigits_replicate_zero (k : Nat) : natOfDigits (List.replicate k '0') = 0 := by
  rw [natOfDigits_eq_ofDigitChars, Nat.ofDigitChars_replicate_zero, Nat.mul_zero]

theorem natOfDigits_cons (c : Char) (cs : List Char) :
    natOfDigits (c :: cs) = 10 ^ cs.length * digitValue c + natOfDigits cs := by
  rw [← List.singleton_append, natOfDigits_append]
  simp [natOfDigits]

theorem digitValue_lt_ten {c : Char} (hc : isDigit c = true) : digitValue c < 10 := by
  rw [isDigit, Bool.and_eq_true, decide_eq_true_eq, decide_eq_true_eq] at hc
  have hnine : c.toNat ≤ '9'.toNat := hc.2
  have hvalue : '9'.toNat = '0'.toNat + 9 := by decide
  rw [digitValue]
  omega

/-- What some digits spell is below the power of ten that has one more digit. -/
theorem natOfDigits_lt {cs : List Char} (hcs : ∀ c ∈ cs, isDigit c = true) :
    natOfDigits cs < 10 ^ cs.length := by
  induction cs with
  | nil => simp [natOfDigits]
  | cons c cs ih =>
    have hrest := ih fun d hd => hcs d (List.mem_cons_of_mem c hd)
    have hc := digitValue_lt_ten (hcs c (List.mem_cons_self ..))
    have hle : 10 ^ cs.length * (digitValue c + 1) ≤ 10 ^ cs.length * 10 :=
      Nat.mul_le_mul_left _ hc
    rw [natOfDigits_cons, List.length_cons, Nat.pow_succ]
    rw [Nat.mul_add, Nat.mul_one] at hle
    omega

end Json

open Json

theorem isDigit_of_mem_digitChars {n : Nat} {c : Char} (hc : c ∈ digitChars n) :
    isDigit c = true := by
  rw [isDigit_eq_isDigit]
  exact Nat.isDigit_of_mem_toDigits (by decide) (by decide) hc

theorem digitChars_ne_nil (n : Nat) : digitChars n ≠ [] := Nat.toDigits_ne_nil

theorem natOfDigits_digitChars (n : Nat) : natOfDigits (digitChars n) = n :=
  Nat.ofDigitChars_ten_toDigits

theorem digitChars_zero : digitChars 0 = ['0'] := Nat.toDigits_zero 10

/-- A number below a power of ten has at most that many digits. -/
theorem length_digitChars_le_iff {n k : Nat} (hk : 0 < k) :
    (digitChars n).length ≤ k ↔ n < 10 ^ k :=
  Nat.length_toDigits_le_iff (by decide) hk

/-- The first digit of a number other than zero is no zero. -/
theorem head?_digitChars_ne_zero {n : Nat} (hn : n ≠ 0) : (digitChars n).head? ≠ some '0' := by
  intro hhead
  obtain ⟨cs, hcs⟩ : ∃ cs, digitChars n = '0' :: cs := by
    cases hdigits : digitChars n with
    | nil => exact absurd hdigits (digitChars_ne_nil n)
    | cons c cs =>
      rw [hdigits, List.head?_cons, Option.some.injEq] at hhead
      exact ⟨cs, by rw [hhead]⟩
  have hspelled : n = natOfDigits cs := by
    rw [← natOfDigits_digitChars n, hcs, natOfDigits_cons]
    simp [digitValue]
  have hlt : natOfDigits cs < 10 ^ cs.length := by
    apply natOfDigits_lt
    intro c hc
    exact isDigit_of_mem_digitChars (n := n) (by rw [hcs]; exact List.mem_cons_of_mem _ hc)
  rw [← hspelled] at hlt
  by_cases hempty : cs.length = 0
  · rw [hempty] at hlt
    omega
  · have hlength := (length_digitChars_le_iff (by omega)).mpr hlt
    rw [hcs, List.length_cons] at hlength
    omega

/-- Digits that spell a number without zeros at its front, or the one digit of zero. -/
structure IsWhole (cs : List Char) : Prop where
  digits : ∀ c ∈ cs, isDigit c = true
  nonempty : cs ≠ []
  leading : cs.head? = some '0' → cs = ['0']

theorem IsWhole.starts {whole : List Char} (h : IsWhole whole)
    (more : List Char) : ∃ c cs, whole ++ more = c :: cs ∧ isDigit c = true := by
  obtain ⟨c, cs, hcons⟩ := List.exists_cons_of_ne_nil h.nonempty
  exact ⟨c, cs ++ more, by rw [hcons, List.cons_append], h.digits c (by simp [hcons])⟩

theorem isWhole_digitChars (n : Nat) : IsWhole (digitChars n) where
  digits _ hc := isDigit_of_mem_digitChars hc
  nonempty := digitChars_ne_nil n
  leading hhead := by
    by_cases hn : n = 0
    · rw [hn, digitChars_zero]
    · exact absurd hhead (head?_digitChars_ne_zero hn)

theorem isWhole_zero : IsWhole ['0'] := digitChars_zero ▸ isWhole_digitChars 0

theorem natOfDigits_padLeft (width : Nat) (cs : List Char) :
    natOfDigits (padLeft width cs) = natOfDigits cs := by
  rw [padLeft, natOfDigits_append, natOfDigits_replicate_zero, Nat.mul_zero, Nat.zero_add]

theorem length_padLeft (width : Nat) (cs : List Char) :
    (padLeft width cs).length = max width cs.length := by
  rw [padLeft, List.length_append, List.length_replicate]
  omega

theorem isDigit_of_mem_padLeft {width : Nat} {cs : List Char}
    (hcs : ∀ c ∈ cs, isDigit c = true) {c : Char} (hc : c ∈ padLeft width cs) :
    isDigit c = true := by
  rcases List.mem_append.mp hc with hc | hc
  · rw [List.eq_of_mem_replicate hc]
    decide
  · exact hcs c hc

end WorkflowEngine
