import WorkflowEngine.Number.Shortest

/-!
# Number formats

How a number becomes text.  A `FloatFormat` says where positional notation ends and
how exponents and non-finite values are spelled; the digits are always the fewest
that read back.
-/

namespace WorkflowEngine

/-- The choices one text format makes for binary64 numbers. -/
structure FloatFormat where
  /-- The least decimal exponent written in positional notation. -/
  leastPlain : Int
  /-- The least number of digits of a written exponent. -/
  exponentWidth : Nat
  nan : String
  positiveInfinity : String
  negativeInfinity : String

namespace FloatFormat

/-- Documents: positional from 0.00001, short exponents, and no text for values
that are not finite. -/
def document : FloatFormat := ⟨-5, 1, "null", "null", "null"⟩

/-- Log lines: positional from 0.0001, exponents of two digits, and names for
values that are not finite. -/
def log : FloatFormat := ⟨-4, 2, "NaN", "Infinity", "-Infinity"⟩

/-- Messages that quote a value: as in log lines, with short names. -/
def quoted : FloatFormat := ⟨-4, 2, "nan", "inf", "-inf"⟩

end FloatFormat

/-- The decimal digits of a natural number. -/
def digitChars (n : Nat) : List Char := Nat.toDigits 10 n

/-- The text of an integer. -/
def intChars (n : Int) : List Char :=
  if n < 0 then '-' :: digitChars n.natAbs else digitChars n.natAbs

/-- Put zeros in front of a text until it has the given length. -/
def padLeft (width : Nat) (cs : List Char) : List Char :=
  List.replicate (width - cs.length) '0' ++ cs

namespace Decimal

/-- The exponent of ten of the first digit. -/
def leadingExponent (d : Decimal) : Int := d.exponent + (digitChars d.digits).length - 1

/-- Positional notation with at least one digit on each side of the point. -/
def plainChars (d : Decimal) : List Char :=
  let ds := digitChars d.digits
  if 0 ≤ d.exponent then ds ++ List.replicate d.exponent.toNat '0' ++ ['.', '0']
  else
    let places := (-d.exponent).toNat
    let padded := padLeft (places + 1) ds
    padded.take (padded.length - places) ++ '.' :: padded.drop (padded.length - places)

/-- Exponent notation with the point after the first digit, and no point if there
is only one. -/
def exponentChars (width : Nat) (d : Decimal) : List Char :=
  let e := d.leadingExponent
  let significand := match digitChars d.digits with
    | [] => []
    | [c] => [c]
    | c :: cs => c :: '.' :: cs
  significand ++ 'e' :: (if e < 0 then '-' else '+') :: padLeft width (digitChars e.natAbs)

end Decimal

/-- The text of a binary64 number.  Positional notation ends below the least plain
exponent and at 10 to the power 16. -/
def FloatFormat.chars (f : FloatFormat) (x : Binary64) : List Char :=
  if x.isNaN then f.nan.toList
  else if !x.isFinite then
    (if x.negative then f.negativeInfinity else f.positiveInfinity).toList
  else
    let sign := if x.negative then ['-'] else []
    if x.magnitude = 0 then sign ++ ['0', '.', '0']
    else
      let d := x.shortest
      if f.leastPlain ≤ d.leadingExponent ∧ d.leadingExponent < 16 then sign ++ d.plainChars
      else sign ++ d.exponentChars f.exponentWidth

end WorkflowEngine
