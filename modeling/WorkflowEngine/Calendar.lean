import WorkflowEngine.Number.Format

/-!
# Calendar dates

Days and seconds counted from the start of 1970 as dates of the Gregorian
calendar, and their text.
-/

namespace WorkflowEngine.Calendar

/-- A date of the Gregorian calendar. -/
structure Date where
  year : Int
  month : Nat
  day : Nat
deriving DecidableEq

/-- Whether a year has a leap day. -/
def isLeap (year : Int) : Bool := year % 4 = 0 && (year % 100 ≠ 0 || year % 400 = 0)

/-- How many days a month has. -/
def monthLength (year : Int) (month : Nat) : Nat :=
  if month = 2 then (if isLeap year then 29 else 28)
  else if month = 4 ∨ month = 6 ∨ month = 9 ∨ month = 11 then 30
  else 31

/-- The date of a day counted from the start of 1970.  Years are counted from
March, so that the leap day ends a year, and in cycles of 400 years. -/
def dateOfDay (days : Int) : Date :=
  let shifted := days + 719468
  let cycle := Int.fdiv shifted 146097
  let dayOfCycle := (shifted - cycle * 146097).toNat
  let yearOfCycle :=
    (dayOfCycle - dayOfCycle / 1460 + dayOfCycle / 36524 - dayOfCycle / 146096) / 365
  let dayOfYear := dayOfCycle - (365 * yearOfCycle + yearOfCycle / 4 - yearOfCycle / 100)
  let monthFromMarch := (5 * dayOfYear + 2) / 153
  let day := dayOfYear - (153 * monthFromMarch + 2) / 5 + 1
  let month := if monthFromMarch < 10 then monthFromMarch + 3 else monthFromMarch - 9
  let year : Int := yearOfCycle + cycle * 400
  ⟨if month ≤ 2 then year + 1 else year, month, day⟩

/-- A number with at least two digits. -/
def twoDigits (n : Nat) : List Char := padLeft 2 (digitChars n)

/-- A date as year, month and day; the year has at least some digits. -/
def Date.chars (d : Date) (yearWidth : Nat) : List Char :=
  padLeft yearWidth (intChars d.year) ++ '-' :: twoDigits d.month ++ '-' :: twoDigits d.day

/-- The hour, minute and second of a day. -/
def clockChars (seconds : Nat) : List Char :=
  twoDigits (seconds / 3600) ++ ':' :: twoDigits (seconds / 60 % 60) ++
    ':' :: twoDigits (seconds % 60)

/-- The date of a second counted from the start of 1970. -/
def dateOfSecond (seconds : Int) : Date := dateOfDay (Int.fdiv seconds 86400)

/-- Seconds counted from the start of 1970 as date and time of day, with a
separator between them. -/
def timeChars (yearWidth : Nat) (separator : Char) (seconds : Int) : List Char :=
  (dateOfSecond seconds).chars yearWidth ++ separator :: clockChars (Int.fmod seconds 86400).toNat

/-- Microseconds as a fraction of six digits, and nothing for none. -/
def fractionChars (micros : Nat) : List Char :=
  if micros = 0 then [] else '.' :: padLeft 6 (digitChars micros)

end WorkflowEngine.Calendar
