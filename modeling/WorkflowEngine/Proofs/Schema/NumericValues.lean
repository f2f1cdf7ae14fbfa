import WorkflowEngine.Proofs.Schema.NumericTexts
import WorkflowEngine.Schema.Shape

/-!
# Values that stand for numbers

A number can be given as it is, as a truth value or as a text.  The leaves of numbers accept
exactly the values that stand for a number, and put that number in their place.
-/

namespace WorkflowEngine.Schema

/-- An integer of any size or a binary64 number. -/
inductive Number where
  | int (n : Int)
  | float (x : Binary64)
deriving DecidableEq

namespace Number

def toJson : Number → Json
  | .int n => .int n
  | .float x => .float x

/-- Whether a number is at least zero; what is not a number is not. -/
def isNonnegative : Number → Bool
  | .int n => decide (0 ≤ n)
  | .float x => x.isNonnegative

end Number

/-- The number that a value stands for.  Truth values are one and zero, and a text is an
integer if it spells one and a binary64 number if it spells only that. -/
def number? : Json → Option Number
  | .int n => some (.int n)
  | .float x => some (.float x)
  | .bool b => some (.int (if b then 1 else 0))
  | .str (.proper s) =>
    match integerOfText s with
    | .ok n => some (.int n)
    | .error _ => (numberOfText s).toOption.map .float
  | _ => none

theorem number?_of_readInteger {v : Json} {n : Int} (hv : ∀ x, v ≠ .float x)
    (h : readInteger v = .ok n) : number? v = some (.int n) := by
  cases v with
  | float x => exact absurd rfl (hv x)
  | str t =>
    cases t with
    | proper s =>
      have hs : integerOfText s = .ok n := h
      rw [number?, hs]
    | broken b => contradiction
  | int m =>
    injection h with h
    rw [number?, h]
  | bool b =>
    injection h with h
    rw [number?, h]
  | _ => contradiction

theorem number?_of_readInteger_error {v : Json} {f : Fault} (hv : ∀ x, v ≠ .float x)
    (h : readInteger v = .error f) : number? v = (readNumber v).toOption.map .float := by
  cases v with
  | float x => exact absurd rfl (hv x)
  | str t =>
    cases t with
    | proper s =>
      have hs : integerOfText s = .error f := h
      rw [number?, hs]
      rfl
    | broken b => rfl
  | int m => contradiction
  | bool b => contradiction
  | _ => rfl

theorem toInt?_of_readInteger {x : Binary64} {n : Int} (h : readInteger (.float x) = .ok n) :
    x.toInt? = some n := by
  rw [readInteger] at h
  split at h
  · contradiction
  · split at h
    · contradiction
    · next m hm =>
      split at h
      · rw [hm, Except.ok.inj h]
      · contradiction

/-! ## Integers before binary64 numbers -/

section Either

variable {labels : String × String} {asInt : Json → Except Fault Int}
  {asFloat : Json → Except Fault Binary64} {v : Json}

theorem readEither_of_float {x : Binary64} (h : asFloat (.float x) = .ok x) :
    readEither labels asInt asFloat (.float x) = .ok (.float x) := by
  rw [readEither, h]
  cases asInt (.float x) with
  | error f => rfl
  | ok n => rfl

theorem readEither_of_integer {n : Int} (hv : ∀ x, v ≠ .float x) (h : asInt v = .ok n) :
    readEither labels asInt asFloat v = .ok (.int n) := by
  cases v with
  | float x => exact absurd rfl (hv x)
  | _ =>
    unfold readEither
    rw [h]
    cases asFloat _ with
    | error g => rfl
    | ok x => rfl

theorem readEither_of_number {x : Binary64} (hint : ∀ n, asInt v ≠ .ok n)
    (hfloat : asFloat v = .ok x) : readEither labels asInt asFloat v = .ok (.float x) := by
  unfold readEither
  cases h : asInt v with
  | error f => rw [hfloat]
  | ok n => exact absurd h (hint n)

theorem exists_of_readEither {c : Json} (h : readEither labels asInt asFloat v = .ok c) :
    (∃ n, asInt v = .ok n) ∨ ∃ x, asFloat v = .ok x := by
  unfold readEither at h
  cases hn : asInt v with
  | ok n => exact Or.inl ⟨n, rfl⟩
  | error f =>
    cases hx : asFloat v with
    | ok x => exact Or.inr ⟨x, rfl⟩
    | error g =>
      rw [hn, hx] at h
      contradiction

end Either

/-! ## Leaves of numbers -/

/-- A bound on numbers that judges both readings of a value alike where it matters: a
binary64 number that it refuses is no integer that it accepts, and a value with a number
that it accepts stands for no integer that it refuses. -/
structure Coherent (p : Number → Bool) : Prop where
  exact : ∀ x n, x.toInt? = some n → p (.int n) = true → p (.float x) = true
  lenient : ∀ v n x, (∀ y, v ≠ .float y) → readInteger v = .ok n → readNumber v = .ok x →
    p (.float x) = true → p (.int n) = true

theorem coherent_isNonnegative : Coherent Number.isNonnegative where
  exact x n hn hnonneg := by
    by_contra hx
    have hneg := Binary64.toInt?_neg (Bool.eq_false_iff.mpr hx) hn
    simp only [Number.isNonnegative, decide_eq_true_eq] at hnonneg
    omega
  lenient v n x hv hn hx hnonneg := by
    rw [Number.isNonnegative, decide_eq_true_eq]
    cases v with
    | float y => exact absurd rfl (hv y)
    | int m =>
      injection hn with hn
      rw [readNumber] at hx
      split at hx
      · injection hx with hx
        rwa [← hx, Number.isNonnegative, Binary64.isNonnegative_ofInt_iff, hn] at hnonneg
      · contradiction
    | bool b =>
      injection hn with hn
      rw [← hn]
      split <;> decide
    | str t =>
      cases t with
      | proper s =>
        by_contra hneg
        rw [Number.isNonnegative, isNonnegative_of_integerOfText_neg hn (by omega) hx] at hnonneg
        contradiction
      | broken b => contradiction
    | _ => contradiction

section Bounded

variable {p : Number → Bool} {labels : String × String} {asInt : Json → Except Fault Int}
  {asFloat : Json → Except Fault Binary64}

theorem readEither_of_number?
    (hint : ∀ v n, asInt v = .ok n ↔ readInteger v = .ok n ∧ p (.int n) = true)
    (hfloat : ∀ v x, asFloat v = .ok x ↔ readNumber v = .ok x ∧ p (.float x) = true)
    {v : Json} {x : Number} (hx : number? v = some x) (hpx : p x = true) :
    readEither labels asInt asFloat v = .ok x.toJson := by
  by_cases hv : ∃ y, v = .float y
  · obtain ⟨y, rfl⟩ := hv
    rw [number?, Option.some.injEq] at hx
    subst hx
    exact readEither_of_float ((hfloat _ _).mpr ⟨rfl, hpx⟩)
  · rw [not_exists] at hv
    cases hr : readInteger v with
    | ok n =>
      rw [number?_of_readInteger hv hr, Option.some.injEq] at hx
      subst hx
      exact readEither_of_integer hv ((hint v n).mpr ⟨hr, hpx⟩)
    | error f =>
      rw [number?_of_readInteger_error hv hr] at hx
      cases hy : readNumber v with
      | error g =>
        rw [hy] at hx
        contradiction
      | ok y =>
        rw [hy] at hx
        injection hx with hx
        subst hx
        refine readEither_of_number (fun n hn => ?_) ((hfloat v y).mpr ⟨hy, hpx⟩)
        rw [hint, hr] at hn
        exact absurd hn.1 (by simp)

theorem exists_number?_of_readEither (hp : Coherent p)
    (hint : ∀ v n, asInt v = .ok n ↔ readInteger v = .ok n ∧ p (.int n) = true)
    (hfloat : ∀ v x, asFloat v = .ok x ↔ readNumber v = .ok x ∧ p (.float x) = true)
    {v c : Json} (h : readEither labels asInt asFloat v = .ok c) :
    ∃ x, number? v = some x ∧ p x = true := by
  by_cases hv : ∃ y, v = .float y
  · obtain ⟨y, rfl⟩ := hv
    refine ⟨.float y, rfl, ?_⟩
    rcases exists_of_readEither h with ⟨n, hn⟩ | ⟨x, hx⟩
    · obtain ⟨hread, hpn⟩ := (hint _ n).mp hn
      exact hp.exact y n (toInt?_of_readInteger hread) hpn
    · obtain ⟨hread, hpx⟩ := (hfloat _ x).mp hx
      injection hread with hread
      rwa [hread]
  · rw [not_exists] at hv
    cases hr : readInteger v with
    | ok n =>
      refine ⟨.int n, number?_of_readInteger hv hr, ?_⟩
      rcases exists_of_readEither h with ⟨m, hm⟩ | ⟨x, hx⟩
      · obtain ⟨hread, hpm⟩ := (hint v m).mp hm
        rwa [Except.ok.inj (hr.symm.trans hread)]
      · obtain ⟨hread, hpx⟩ := (hfloat v x).mp hx
        exact hp.lenient v n x hv hr hread hpx
    | error f =>
      rcases exists_of_readEither h with ⟨m, hm⟩ | ⟨x, hx⟩
      · rw [hint, hr] at hm
        exact absurd hm.1 (by simp)
      · obtain ⟨hread, hpx⟩ := (hfloat v x).mp hx
        refine ⟨.float x, ?_, hpx⟩
        rw [number?_of_readInteger_error hv hr, hread]
        rfl

/-- A leaf that reads an integer or else a binary64 number within a bound accepts the values
that stand for a number within the bound. -/
theorem readEither_eq_ok_iff (hp : Coherent p)
    (hint : ∀ v n, asInt v = .ok n ↔ readInteger v = .ok n ∧ p (.int n) = true)
    (hfloat : ∀ v x, asFloat v = .ok x ↔ readNumber v = .ok x ∧ p (.float x) = true)
    {v c : Json} :
    readEither labels asInt asFloat v = .ok c ↔
      ∃ x, number? v = some x ∧ p x = true ∧ c = x.toJson := by
  constructor
  · intro h
    obtain ⟨x, hx, hpx⟩ := exists_number?_of_readEither hp hint hfloat h
    have hread : readEither labels asInt asFloat v = .ok x.toJson :=
      readEither_of_number? hint hfloat hx hpx
    exact ⟨x, hx, hpx, Except.ok.inj (h.symm.trans hread)⟩
  · rintro ⟨x, hx, hpx, rfl⟩
    exact readEither_of_number? hint hfloat hx hpx

end Bounded

theorem bind_requireNonnegativeInt_eq_ok_iff {e : Except Fault Int} {n : Int} :
    e >>= requireNonnegativeInt = .ok n ↔ e = .ok n ∧ 0 ≤ n := by
  cases e with
  | error f => simp [bind, Except.bind]
  | ok m =>
    change requireNonnegativeInt m = .ok n ↔ _
    rw [requireNonnegativeInt]
    split
    · next hm =>
      rw [Except.ok.injEq]
      exact ⟨fun h => ⟨h, h ▸ hm⟩, And.left⟩
    · next hm =>
      simp only [reduceCtorEq, Except.ok.injEq, false_iff, not_and]
      rintro rfl
      exact hm

theorem bind_requireNonnegative_eq_ok_iff {e : Except Fault Binary64} {x : Binary64} :
    e >>= requireNonnegative = .ok x ↔ e = .ok x ∧ x.isNonnegative = true := by
  cases e with
  | error f => simp [bind, Except.bind]
  | ok y =>
    change requireNonnegative y = .ok x ↔ _
    rw [requireNonnegative]
    split
    · next hy =>
      rw [Except.ok.injEq]
      exact ⟨fun h => ⟨h, h ▸ hy⟩, And.left⟩
    · next hy =>
      simp only [reduceCtorEq, Except.ok.injEq, false_iff, not_and]
      rintro rfl
      exact hy

namespace Leaf

/-- A value is accepted as a number if it stands for one. -/
theorem check_number_eq_ok_iff {v c : Json} :
    (Shape.leaf .number).check v = .ok c ↔ ∃ x, number? v = some x ∧ c = x.toJson := by
  have hcoherent : Coherent fun _ => true := ⟨fun _ _ _ _ => rfl, fun _ _ _ _ _ _ _ => rfl⟩
  have h : readEither ("int", "float") readInteger readNumber v = .ok c ↔ _ :=
    readEither_eq_ok_iff hcoherent (by simp) (by simp)
  simp only [true_and] at h
  exact h

/-- A value is accepted as a threshold if it stands for a number that is at least zero. -/
theorem check_threshold_eq_ok_iff {v c : Json} :
    (Shape.leaf .threshold).check v = .ok c ↔
      ∃ x, number? v = some x ∧ x.isNonnegative = true ∧ c = x.toJson := by
  have hcheck : (Shape.leaf .threshold).check v =
      readEither ("constrained-int", "constrained-float")
        (fun j => readInteger j >>= requireNonnegativeInt)
        (fun j => readNumber j >>= requireNonnegative) v := rfl
  rw [hcheck]
  apply readEither_eq_ok_iff coherent_isNonnegative
  · intro v n
    rw [bind_requireNonnegativeInt_eq_ok_iff, Number.isNonnegative, decide_eq_true_eq]
  · intro v x
    exact bind_requireNonnegative_eq_ok_iff

end Leaf

end WorkflowEngine.Schema
