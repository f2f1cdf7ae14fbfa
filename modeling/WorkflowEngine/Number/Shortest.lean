import WorkflowEngine.Number.Binary64

/-!
# The fewest digits that read back

Every positive binary64 number owns an interval of reals that round to it.
`Binary64.shortest` is the decimal with the fewest digits in that interval, and
among those the one nearest to the number.  On the grid of decimals with a given
number of digits only the two neighbours of the number can be nearest, so those
two are tried, for one digit, two digits and so on up to seventeen.
-/

namespace WorkflowEngine

/-- The positive decimal `digits * 10 ^ exponent`. -/
structure Decimal where
  digits : Nat
  exponent : Int
deriving DecidableEq, Inhabited

namespace Decimal

/-- The value of a decimal as numerator and denominator. -/
def ratio (d : Decimal) : Nat × Nat :=
  if 0 ≤ d.exponent then (d.digits * Nat.pow 10 d.exponent.toNat, 1)
  else (d.digits, Nat.pow 10 (-d.exponent).toNat)

/-- Move the zeros at the end of the digits into the exponent, at most `fuel` of
them. -/
def dropZeros : Nat → Decimal → Decimal
  | 0, d => d
  | fuel + 1, d =>
    if d.digits ≠ 0 ∧ d.digits % 10 = 0 then dropZeros fuel ⟨d.digits / 10, d.exponent + 1⟩
    else d

end Decimal

namespace Binary64

/-- Whether `num / den` is below `10 ^ exponent`. -/
def belowPowerOfTen (num den : Nat) (exponent : Int) : Bool :=
  if 0 ≤ exponent then decide (num < den * Nat.pow 10 exponent.toNat)
  else decide (num * Nat.pow 10 (-exponent).toNat < den)

/-- The least exponent of ten whose power is above the positive quotient
`num / den`.  The search starts from an estimate by powers of two. -/
def powerOfTenAbove (num den : Nat) : Int :=
  let estimate := Int.fdiv (((num.log2 : Int) - (den.log2 : Int) - 1) * 30103) 100000
  let candidates := [estimate, estimate + 1, estimate + 2, estimate + 3]
  (candidates.find? (belowPowerOfTen num den)).getD (estimate + 3)

/-- The reals that round to a positive finite number: both ends over one
denominator, and whether the ends belong to the interval. -/
structure Interval where
  low : Nat
  high : Nat
  den : Nat
  closed : Bool

/-- The interval of a positive finite number.  Below a power of two the gap is
half as wide, and the ends round to the number if its mantissa is even. -/
def interval (x : Binary64) : Interval :=
  let (unit, den) := scaled 1 (x.power - 2)
  let m := x.mantissa
  let below := if m = leadingBit ∧ -1074 < x.power then 1 else 2
  ⟨(4 * m - below) * unit, (4 * m + 2) * unit, den, m % 2 = 0⟩

/-- Whether a decimal lies in an interval. -/
def Interval.contains (i : Interval) (d : Decimal) : Bool :=
  let (num, den) := d.ratio
  if i.closed then decide (i.low * den ≤ num * i.den) && decide (num * i.den ≤ i.high * den)
  else decide (i.low * den < num * i.den) && decide (num * i.den < i.high * den)

/-- The neighbours of a positive number among the multiples of `10 ^ exponent`
that lie in its interval, the nearer one first; of two equally near ones the even
one comes first. -/
def neighbours (x : Binary64) (exponent : Int) : List Decimal :=
  let (num, den) := x.ratio
  let (n, d) :=
    if 0 ≤ exponent then (num, den * Nat.pow 10 exponent.toNat)
    else (num * Nat.pow 10 (-exponent).toNat, den)
  let low := n / d
  let rest := n % d
  let upFirst := d < 2 * rest ∨ (d = 2 * rest ∧ low % 2 = 1)
  let ordered := if upFirst then [low + 1, low] else [low, low + 1]
  (ordered.map (Decimal.mk · exponent)).filter fun c => c.digits ≠ 0 && x.interval.contains c

/-- The decimal with the fewest digits that reads back as the positive finite
number, the nearest of these. -/
def shortest (x : Binary64) : Decimal :=
  let (num, den) := x.ratio
  let above := powerOfTenAbove num den
  let found := (List.range 17).findSome? fun i => (neighbours x (above - (i + 1 : Nat))).head?
  (found.getD ⟨num, 0⟩).dropZeros 400

end Binary64

end WorkflowEngine
