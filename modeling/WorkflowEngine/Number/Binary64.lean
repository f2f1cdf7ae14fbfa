/-!
# Binary64 numbers

Numbers of the binary64 format, computed with exact integers.  A number is held
by its 64 bits, so equality is decidable and tells every two numbers apart.
A finite number is `mantissa * 2 ^ power`; `round` is the nearest number to a
quotient of natural numbers, a tie going to the even mantissa, and
`ofDecimal` is the nearest number to a decimal.
-/

namespace WorkflowEngine

/-- A number of the binary64 format, held by its bits. -/
structure Binary64 where
  bits : UInt64
deriving DecidableEq, Inhabited

namespace Binary64

/-- The weight of the leading bit of a full mantissa. -/
def leadingBit : Nat := Nat.pow 2 52

/-- The weight of the sign bit. -/
def signBit : Nat := Nat.pow 2 63

/-- The number with the given sign whose other 63 bits spell `magnitude`. -/
def ofSign (negative : Bool) (magnitude : Nat) : Binary64 :=
  ⟨UInt64.ofNat ((if negative then signBit else 0) + magnitude)⟩

/-- The 63 bits below the sign of either infinity. -/
def infiniteMagnitude : Nat := 2047 * leadingBit

/-- Zero of either sign. -/
def zero (negative : Bool) : Binary64 := ofSign negative 0

/-- Infinity of either sign. -/
def infinity (negative : Bool) : Binary64 := ofSign negative infiniteMagnitude

/-- The one value that is not a number. -/
def nan : Binary64 := ofSign false (infiniteMagnitude + leadingBit / 2)

/-- Whether the sign bit is set. -/
def negative (x : Binary64) : Bool := decide (signBit ≤ x.bits.toNat)

/-- The 63 bits below the sign. -/
def magnitude (x : Binary64) : Nat := x.bits.toNat % signBit

/-- Neither infinite nor the value that is not a number. -/
def isFinite (x : Binary64) : Bool := decide (x.magnitude < infiniteMagnitude)

/-- Not a number. -/
def isNaN (x : Binary64) : Bool := decide (infiniteMagnitude < x.magnitude)

/-- The integer factor of a finite number, its sign left out. -/
def mantissa (x : Binary64) : Nat :=
  if x.magnitude < leadingBit then x.magnitude else x.magnitude % leadingBit + leadingBit

/-- The exponent of two that goes with `mantissa`. -/
def power (x : Binary64) : Int :=
  if x.magnitude < leadingBit then -1074 else (x.magnitude / leadingBit : Nat) - 1075

/-- A product `factor * 2 ^ power` as numerator and denominator. -/
def scaled (factor : Nat) (power : Int) : Nat × Nat :=
  if 0 ≤ power then (factor * Nat.pow 2 power.toNat, 1) else (factor, Nat.pow 2 (-power).toNat)

/-- The absolute value of a finite number as numerator and denominator. -/
def ratio (x : Binary64) : Nat × Nat := scaled x.mantissa x.power

/-- The integer nearest to a quotient; a half goes to the even neighbour. -/
def roundHalfEven (num den : Nat) : Nat :=
  let quotient := num / den
  let rest := num % den
  if 2 * rest < den then quotient
  else if den < 2 * rest then quotient + 1
  else quotient + quotient % 2

/-- The quotient `num / den` measured in units of `2 ^ power`. -/
def inUnits (num den : Nat) (power : Int) : Nat × Nat :=
  if 0 ≤ power then (num, den * Nat.pow 2 power.toNat) else (num * Nat.pow 2 (-power).toNat, den)

/-- The exponent of two at which the mantissa of `num / den` has 53 bits, or the
least exponent of the format if that is larger. -/
def unitPower (num den : Nat) : Int :=
  let guess : Int := (num.log2 : Int) - (den.log2 : Int) - 53
  let (n, d) := inUnits num den guess
  max (-1074) (if 2 * leadingBit * d ≤ n then guess + 1 else guess)

/-- The number nearest to `num / den` with the given sign.  A half goes to the
even mantissa, and what is too large is infinite. -/
def round (negative : Bool) (num den : Nat) : Binary64 :=
  if num = 0 then zero negative
  else
    let unit := unitPower num den
    let (n, d) := inUnits num den unit
    let spelled := (unit + 1074).toNat * leadingBit + roundHalfEven n d
    ofSign negative (min spelled infiniteMagnitude)

/-- The number nearest to an integer. -/
def ofInt (n : Int) : Binary64 := round (decide (n < 0)) n.natAbs 1

/-- How many decimal digits a positive number has. -/
def decimalSize (n : Nat) : Nat := (Nat.toDigits 10 n).length

/-- The number nearest to `digits * 10 ^ exponent`.  Exponents far outside the
range of the format are answered without building the power of ten. -/
def ofDecimal (negative : Bool) (digits : Nat) (exponent : Int) : Binary64 :=
  if digits = 0 then zero negative
  else if 400 < exponent + decimalSize digits then infinity negative
  else if exponent + decimalSize digits < -400 then zero negative
  else if 0 ≤ exponent then round negative (digits * Nat.pow 10 exponent.toNat) 1
  else round negative digits (Nat.pow 10 (-exponent).toNat)

/-- Attach the sign of a number to a natural number. -/
def signed (x : Binary64) (n : Nat) : Int := if x.negative then -(n : Int) else n

/-- The integer a number is equal to, if it is one. -/
def toInt? (x : Binary64) : Option Int :=
  let (n, d) := x.ratio
  if x.isFinite && n % d = 0 then some (x.signed (n / d)) else none

/-- The greatest integer not above a finite number. -/
def floor (x : Binary64) : Int :=
  let (n, d) := x.ratio
  Int.fdiv (x.signed n) d

/-- Whether a number is at least zero; both zeros are, and what is not a number
is not. -/
def isNonnegative (x : Binary64) : Bool :=
  !x.isNaN && (!x.negative || decide (x.magnitude = 0))

end Binary64

end WorkflowEngine
