import WorkflowEngine.Calendar
import WorkflowEngine.Json.Reader
import WorkflowEngine.Schema.Issue

/-!
# Points in time

A point in time is read from the text of a date and a time of day, from the text of a
date alone, or from a number of seconds since the start of 1970, which may be spelled
as a text too.  It is kept as text: date, `T`, time of day, a fraction of six digits if
there is one, and the offset if one was given.

Texts are read by their UTF-8 bytes, each byte standing as the character with its
number.
-/

namespace WorkflowEngine.Schema

/-! ## Texts -/

/-- The bytes of a text as characters. -/
def byteChars (s : String) : List Char :=
  (s.toList.flatMap String.utf8EncodeChar).map fun b => Char.ofNat b.toNat

/-- Read two digits. -/
def takePair? : List Char → Option (Nat × List Char)
  | a :: b :: rest =>
    if Json.isDigit a ∧ Json.isDigit b then some (Json.natOfDigits [a, b], rest) else none
  | _ => none

/-- Read a fixed character. -/
def takeChar? (c : Char) : List Char → Option (List Char)
  | d :: rest => if c = d then some rest else none
  | [] => none

/-- Read two digits or fail with the given fault. -/
def takePart (fault : InstantFault) (cs : List Char) : Except InstantFault (Nat × List Char) :=
  match takePair? cs with
  | some found => .ok found
  | none => .error fault

/-- Pass over the separator of dates. -/
def takeDash (cs : List Char) : Except InstantFault (List Char) :=
  match takeChar? '-' cs with
  | some rest => .ok rest
  | none => .error .badSeparator

/-- Read a date at the front of a text. -/
def takeDate (cs : List Char) : Except InstantFault (Calendar.Date × List Char) := do
  if cs.length < 10 then throw .tooShort
  let (century, cs) ← takePart .badYear cs
  let (year, cs) ← takePart .badYear cs
  let (month, cs) ← takePart .badMonth (← takeDash cs)
  let (day, cs) ← takePart .badDay (← takeDash cs)
  if month < 1 ∨ 12 < month then throw .noSuchMonth
  let date : Calendar.Date := ⟨century * 100 + year, month, day⟩
  if day < 1 ∨ Calendar.monthLength date.year month < day then throw .noSuchDay
  return (date, cs)

/-- Read a fraction of a second in microseconds.  It follows a point or a comma and has
at least one digit; those after the sixth are dropped. -/
def takeFraction? : List Char → Option (Nat × List Char)
  | c :: rest =>
    if c = '.' ∨ c = ',' then
      let ds := rest.takeWhile Json.isDigit
      let kept := ds.take 6
      if ds.isEmpty then none
      else some (Json.natOfDigits kept * Nat.pow 10 (6 - kept.length), rest.drop ds.length)
    else some (0, c :: rest)
  | [] => some (0, [])

/-- Read a time of day as seconds and microseconds.  The seconds may be left out, and
then there is no fraction. -/
def takeClock? (cs : List Char) : Option (Nat × Nat × List Char) := do
  let (hour, cs) ← takePair? cs
  let (minute, cs) ← takePair? (← takeChar? ':' cs)
  if 24 ≤ hour ∨ 60 ≤ minute then none
  else match takeChar? ':' cs with
    | none => some (hour * 3600 + minute * 60, 0, cs)
    | some cs => do
      let (second, cs) ← takePair? cs
      let (micros, cs) ← takeFraction? cs
      if 60 ≤ second then none else some (hour * 3600 + minute * 60 + second, micros, cs)

/-- Read the sign of an offset: a plus, a hyphen or the minus sign U+2212. -/
def takeOffsetSign? : List Char → Option (Char × List Char)
  | '+' :: rest => some ('+', rest)
  | '-' :: rest => some ('-', rest)
  | '\xE2' :: '\x88' :: '\x92' :: rest => some ('-', rest)
  | _ => none

/-- The offset from universal time that ends a text. -/
def offsetOf? (cs : List Char) : Option (List Char) :=
  match cs with
  | [] => some []
  | ['Z'] | ['z'] => some ['Z']
  | _ => do
    let (sign, cs) ← takeOffsetSign? cs
    let (hour, cs) ← takePair? cs
    let (minute, cs) ← takePair? ((takeChar? ':' cs).getD cs)
    if 24 ≤ hour ∨ 60 ≤ minute ∨ cs ≠ [] then none
    else if hour = 0 ∧ minute = 0 then some ['Z']
    else some (sign :: Calendar.twoDigits hour ++ ':' :: Calendar.twoDigits minute)

/-- The text of a date and a time of day; there is no year zero. -/
def instantChars (date : Calendar.Date) (seconds micros : Nat) (offset : List Char) :
    Except Fault (List Char) :=
  if date.year = 0 then .error (.badInstant .yearZero)
  else
    let clock := Calendar.clockChars seconds ++ Calendar.fractionChars micros
    .ok (date.chars 4 ++ 'T' :: clock ++ offset)

/-- The point in time spelled by a date, a time of day and an offset. -/
def instantOfChars? (cs : List Char) : Option (Except Fault (List Char)) :=
  match takeDate cs with
  | .error _ => none
  | .ok (date, cs) =>
    match cs with
    | [] => none
    | separator :: cs =>
      if ['T', 't', ' ', '_'].contains separator then do
        let (seconds, micros, cs) ← takeClock? cs
        let offset ← offsetOf? cs
        return instantChars date seconds micros offset
      else none

/-! ## Numbers -/

/-- Above this many seconds a number counts milliseconds. -/
def millisecondsFrom : Nat := 20000000000

/-- The first second of the year zero. -/
def firstSecond : Int := -62167219200

/-- The last second of the year 9999. -/
def lastSecond : Int := 253402300799

/-- The point in time some seconds and microseconds after the start of 1970. -/
def instantOfSeconds (seconds : Int) (micros : Nat) : Except InstantFault (List Char) :=
  let whole := seconds + micros / 1000000
  if whole < firstSecond then .error .beforeYearZero
  else if lastSecond < whole then .error .afterYear9999
  else
    .ok (Calendar.timeChars 4 'T' whole ++ Calendar.fractionChars (micros % 1000000) ++ ['Z'])

/-- The point in time given by an integer. -/
def instantOfInt (n : Int) : Except InstantFault (List Char) :=
  if n.natAbs ≤ millisecondsFrom then instantOfSeconds n 0
  else
    let seconds := Int.fdiv n 1000
    instantOfSeconds seconds ((n - seconds * 1000).toNat * 1000)

/-- The nearest binary64 number to a quotient of an integer. -/
def nearest (num : Int) (den : Nat) : Binary64 := .round (decide (num < 0)) num.natAbs den

/-- A finite number in parts: the greatest integer not above it, and what is left in parts
of the given size.  The rest is multiplied as a binary64 number and then rounded, a half
going up. -/
def wholeAndParts (x : Binary64) (size : Nat) : Int × Nat :=
  let (num, den) := x.ratio
  let (num, den) := (nearest (x.signed num - x.floor * den) den).ratio
  let (num, den) := (nearest (num * size : Nat) den).ratio
  (x.floor, (2 * num + den) / (2 * den))

/-- The point in time given by a binary64 number. -/
def instantOfFloat (x : Binary64) : Except InstantFault (List Char) :=
  if x.isNaN then .error .notNumber
  else if !x.isFinite then .error (if x.negative then .beforeYearZero else .afterYear9999)
  else
    let (num, den) := x.ratio
    if millisecondsFrom * den < num then
      let (millis, micros) := wholeAndParts x 1000
      let seconds := Int.fdiv millis 1000
      instantOfSeconds seconds ((millis - seconds * 1000).toNat * 1000 + micros)
    else
      let (seconds, micros) := wholeAndParts x 1000000
      instantOfSeconds seconds micros

/-- A number spelled by a text: a sign, digits, and perhaps a point and further digits.
Digits may be missing on one side of the point.  An integer fits in a machine word. -/
def numberInText? (cs : List Char) : Option (Except InstantFault (List Char)) :=
  let (negative, magnitude) : Bool × List Char := match cs with
    | '-' :: rest => (true, rest)
    | '+' :: rest => (false, rest)
    | rest => (false, rest)
  let whole := magnitude.takeWhile Json.isDigit
  match magnitude.drop whole.length with
  | [] =>
    let n : Int := Json.natOfDigits whole
    let value := if negative then -n else n
    if whole.isEmpty ∨ value < -(Nat.pow 2 63 : Int) ∨ Nat.pow 2 63 ≤ value then none
    else some (instantOfInt value)
  | '.' :: places =>
    if places.all Json.isDigit ∧ ¬ (whole.isEmpty ∧ places.isEmpty) then
      some (instantOfFloat
        (.ofDecimal negative (Json.natOfDigits (whole ++ places)) (-(places.length : Int))))
    else none
  | _ => none

/-! ## Reading -/

/-- Whether a text consists of a sign and digits only. -/
def isWhole (cs : List Char) : Bool :=
  let magnitude := match cs with
    | '-' :: rest | '+' :: rest => rest
    | rest => rest
  magnitude.all Json.isDigit

/-- What a text spells that is no date with a time of day: a number, or else a date,
whose day then begins. -/
def instantOfOther (cs : List Char) : Except Fault (List Char) :=
  match numberInText? cs, takeDate cs with
  | some (.ok found), _ => .ok found
  | number, .error why =>
    .error (.badDate (match number with
      | some (.error range) => if isWhole cs then range else why
      | _ => why))
  | _, .ok (date, []) => instantChars date 0 0 []
  | _, .ok _ => .error (.badDate .extraCharacters)

/-- Whether the text of a point in time names the year zero. -/
def isYearZero (cs : List Char) : Bool := "0000".toList.isPrefixOf cs

/-- A point in time given by a number. -/
def instantOfNumber (found : Except InstantFault (List Char)) : Except Fault String :=
  match found with
  | .ok cs => if isYearZero cs then .error (.badInstant .yearZero) else .ok (String.ofList cs)
  | .error why => .error (.badInstant why)

/-- Read a point in time. -/
def readInstant : Json → Except Fault String
  | .str (.broken _) => .error .notUnicode
  | .str (.proper s) =>
    let cs := byteChars s
    match (instantOfChars? cs).getD (instantOfOther cs) with
    | .ok found =>
      if isYearZero found then .error (.badInstant .yearZero) else .ok (String.ofList found)
    | .error fault => .error fault
  | .int n =>
    if n.natAbs < Nat.pow 2 63 then instantOfNumber (instantOfInt n)
    else
      let x := Binary64.ofInt n
      if x.isFinite then instantOfNumber (instantOfFloat x) else .error .notInstant
  | .float x => instantOfNumber (instantOfFloat x)
  | _ => .error .notInstant

end WorkflowEngine.Schema
