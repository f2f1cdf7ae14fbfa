import WorkflowEngine.Json.Reader
import WorkflowEngine.Schema.Issue
import WorkflowEngine.Schema.Instant

/-!
# Values without fields

The readers of texts, flags and numbers, and the inductive type `Leaf` of all
shapes that have no declared fields.  Reading is lenient: numbers may come as
texts, and flags as numbers or words.  `Leaf.check` answers with the value in its
own type: a number read from a text is a number from then on.
-/

namespace WorkflowEngine.Schema

/-! ## Numbers spelled as text -/

/-- Take a sign off the front; the flag tells whether it was a minus. -/
def takeSign : List Char → Bool × List Char
  | '-' :: rest => (true, rest)
  | '+' :: rest => (false, rest)
  | cs => (false, cs)

/-- A text without its underscores; none may stand at an end or next to another. -/
def withoutUnderscores? (cs : List Char) : Option (List Char) :=
  let bare := cs.filter (· != '_')
  let paired := (cs.zip (cs.drop 1)).any fun (a, b) => a == '_' && b == '_'
  if cs.head? == some '_' || cs.getLast? == some '_' || paired then none else some bare

/-- What follows some zeros, of which `last` came last: further zeros and underscores are
passed over up to a digit or a minus sign.  Before a point and at the end the last one
stays. -/
def afterZeros? (last : Char) : List Char → Option (List Char)
  | [] => some [last]
  | '.' :: rest => some (last :: '.' :: rest)
  | c :: rest =>
    if c = '0' ∨ c = '_' then afterZeros? c rest
    else if Json.isDigit c ∨ c = '-' then some (c :: rest)
    else none

/-- A number without the zeros at its front. -/
def withoutLeadingZeros? : List Char → Option (List Char)
  | [] => none
  | c :: rest =>
    if c = '0' then afterZeros? c rest
    else if Json.isDigit c ∨ c = '-' then some (c :: rest)
    else none

/-- What stands before a fraction of zeros, or the whole text if there is no
fraction. -/
def withoutZeroFraction (cs : List Char) : List Char :=
  match cs.dropWhile (· != '.') with
  | '.' :: places =>
    if !places.isEmpty && places.all (· == '0') then cs.takeWhile (· != '.') else cs
  | _ => cs

/-- A number without zeros at its front, a fraction of zeros and underscores. -/
def bareNumber? (cs : List Char) : Option (List Char) := do
  let whole := withoutZeroFraction (← withoutLeadingZeros? cs)
  return (withoutUnderscores? whole).getD whole

/-- A text in the plain spelling of integers, as far as it can be brought into it. -/
def plainInteger? (s : String) : Option (List Char) :=
  match Text.trim Text.isBlank s.toList with
  | '-' :: rest => (bareNumber? rest).map ('-' :: ·)
  | '+' :: '-' :: _ => none
  | '+' :: rest => bareNumber? rest
  | cs => bareNumber? cs

/-- The integer in plain spelling: a minus sign, and digits of which the first is no
zero unless it is the only one.  More digits than the limit are refused whatever
follows them. -/
def integerOfPlain (cs : List Char) : Except Fault Int :=
  let (negative, magnitude) : Bool × List Char := match cs with
    | '-' :: rest => (true, rest)
    | rest => (false, rest)
  let digits := magnitude.takeWhile Json.isDigit
  if digits.isEmpty || (digits.head? == some '0' && 1 < digits.length) then
    .error .unreadableInteger
  else if Json.digitLimit < digits.length then .error .oversizeInteger
  else if digits.length < magnitude.length then .error .unreadableInteger
  else
    let n : Int := Json.natOfDigits digits
    .ok (if negative then -n else n)

/-- The integer spelled by a text: blanks around it, a sign, zeros at the front, single
underscores between digits and a fraction of zeros are allowed.  Only a text that begins in
plain spelling can have too many digits. -/
def integerOfText (s : String) : Except Fault Int :=
  match integerOfPlain s.toList with
  | .ok n => .ok n
  | .error .oversizeInteger => .error .oversizeInteger
  | .error _ =>
    match (plainInteger? s).map integerOfPlain with
    | some (.ok n) => .ok n
    | _ => .error .unreadableInteger

/-- The number spelled by decimal digits, a point and an exponent, each part but
the digits optional. -/
def decimalOfText? (negative : Bool) (cs : List Char) : Option Binary64 :=
  let whole := cs.takeWhile Json.isDigit
  let afterWhole := cs.drop whole.length
  let (places, afterPlaces) : List Char × List Char := match afterWhole with
    | '.' :: rest => (rest.takeWhile Json.isDigit, rest.dropWhile Json.isDigit)
    | rest => ([], rest)
  if whole.isEmpty && places.isEmpty then none
  else
    let value := fun (exponent : Int) =>
      Binary64.ofDecimal negative (Json.natOfDigits (whole ++ places)) (exponent - places.length)
    match afterPlaces with
    | [] => some (value 0)
    | rest =>
      match Json.exponentPart rest with
      | some (exponent, size) => if size = rest.length then some (value exponent) else none
      | none => none

/-- The binary64 number spelled by some characters: a decimal with an optional exponent,
or the name of a value that is not finite in any case. -/
def numberOfChars? (cs : List Char) : Option Binary64 :=
  let (negative, magnitude) := takeSign cs
  let word := String.ofList (magnitude.map Char.toLower)
  if word = "inf" ∨ word = "infinity" then some (Binary64.infinity negative)
  else if word = "nan" then some Binary64.nan
  else decimalOfText? negative magnitude

/-- The binary64 number spelled by a text: with blanks around it, or else without blanks
and with single underscores inside. -/
def numberOfText (s : String) : Except Fault Binary64 :=
  match numberOfChars? (Text.trim Text.isBlank s.toList) with
  | some x => .ok x
  | none =>
    match (withoutUnderscores? s.toList).bind numberOfChars? with
    | some x => .ok x
    | none => .error .unreadableNumber

/-! ## Readers -/

/-- Integers of magnitude below this fit in a machine word. -/
def wordLimit : Nat := Nat.pow 2 63

/-- Whether an integer fits in a machine word. -/
def fitsWord (n : Int) : Bool := -(wordLimit : Int) ≤ n && n < wordLimit

def readInteger : Json → Except Fault Int
  | .int n => .ok n
  | .bool b => .ok (if b then 1 else 0)
  | .str (.proper s) => integerOfText s
  | .str (.broken _) => .error .notUnicode
  | .float x =>
    if !x.isFinite then .error .infiniteInteger
    else match x.toInt? with
      | none => .error .fractionalInteger
      | some n => if n.natAbs < wordLimit then .ok n else .error .oversizeInteger
  | _ => .error .notInteger

def readNumber : Json → Except Fault Binary64
  | .float x => .ok x
  | .int n =>
    let x := Binary64.ofInt n
    if x.isFinite then .ok x else .error .notNumber
  | .bool b => .ok (.ofInt (if b then 1 else 0))
  | .str (.proper s) => numberOfText s
  | .str (.broken _) => .error .notUnicode
  | _ => .error .notNumber

def noWords : List String := ["0", "off", "f", "false", "n", "no"]

def yesWords : List String := ["1", "on", "t", "true", "y", "yes"]

/-- Read a flag: a truth value, zero or one, or one of the words in any case. -/
def readFlag (j : Json) : Except Fault Bool :=
  let ofInteger := fun (n : Int) =>
    if n = 0 then .ok false
    else if n = 1 then .ok true
    else if fitsWord n then .error .unreadableFlag
    else .error .notFlag
  match j with
  | .bool b => .ok b
  | .int n => ofInteger n
  | .float x =>
    match x.toInt? with
    | some n => if n.natAbs < wordLimit then ofInteger n else .error .notFlag
    | none => .error .notFlag
  | .str (.broken _) => .error .notUnicode
  | .str (.proper s) =>
    let word := String.ofList (s.toList.map Char.toLower)
    if noWords.contains word then .ok false
    else if yesWords.contains word then .ok true
    else .error .unreadableFlag
  | _ => .error .notFlag

def readText : Json → Except Fault Text
  | .str t => .ok t
  | _ => .error .notText

/-- Refuse a negative integer. -/
def requireNonnegativeInt (n : Int) : Except Fault Int :=
  if 0 ≤ n then .ok n else .error .belowZero

/-- Refuse a number that is not at least zero. -/
def requireNonnegative (x : Binary64) : Except Fault Binary64 :=
  if x.isNonnegative then .ok x else .error .belowZero

/-- Read an integer or else a binary64 number.  A value that is a number keeps its
own type, and other values are tried as an integer first.  If both fail, the issues
of both stand under their labels. -/
def readEither
    (labels : String × String)
    (asInt : Json → Except Fault Int)
    (asFloat : Json → Except Fault Binary64)
    (j : Json) : Checked Json :=
  let exact : Bool := match j with
    | .float _ => true
    | _ => false
  match asInt j, asFloat j with
  | .ok n, .ok x => .ok (if exact then .float x else .int n)
  | .ok n, .error _ => .ok (.int n)
  | .error _, .ok x => .ok (.float x)
  | .error f, .error g =>
    .error [⟨f, [.alternative labels.1]⟩, ⟨g, [.alternative labels.2]⟩]

/-! ## Leaves -/

/-- The shapes that have no declared fields. -/
inductive Leaf where
  | text
  /-- A string with at least one character. -/
  | filledText
  /-- A text or null. -/
  | optionalText
  | flag
  | integer
  /-- An integer or a binary64 number. -/
  | number
  /-- The same, at least zero. -/
  | threshold
  /-- A binary64 number that is at least zero. -/
  | duration
  /-- A point in time. -/
  | instant
  /-- An object whose values are texts. -/
  | textMap
  /-- A list of texts. -/
  | textList
  /-- An object of any content, or null. -/
  | optionalMap
  /-- One fixed text. -/
  | literal (expected : String)
  /-- One of some texts. -/
  | choice (expected : List String)
deriving DecidableEq

/-- A fault as a check. -/
def lift {α : Type} (toJson : α → Json) : Except Fault α → Checked Json
  | .ok x => .ok (toJson x)
  | .error f => Checked.fault f

/-- Check a value against a leaf. -/
def Leaf.check : Leaf → Json → Checked Json
  | .text, j => lift .str (readText j)
  | .filledText, j =>
    match j with
    | .str (.proper s) => if s = "" then Checked.fault .emptyText else .ok j
    | .str (.broken _) => Checked.fault .notUnicode
    | _ => Checked.fault .notText
  | .optionalText, j =>
    match j with
    | .null => .ok .null
    | _ => lift .str (readText j)
  | .flag, j => lift .bool (readFlag j)
  | .integer, j => lift .int (readInteger j)
  | .number, j => readEither ("int", "float") readInteger readNumber j
  | .threshold, j =>
    readEither ("constrained-int", "constrained-float")
      (fun j => readInteger j >>= requireNonnegativeInt)
      (fun j => readNumber j >>= requireNonnegative) j
  | .duration, j => lift .float (readNumber j >>= requireNonnegative)
  | .instant, j => lift (fun s => .str s) (readInstant j)
  | .textMap, j =>
    match j with
    | .obj o =>
      (Checked.gather (o.map fun (k, v) =>
        Checked.under (.key k) ((lift .str (readText v)).map fun t => (k, t)))).map .obj
    | _ => Checked.fault .notMap
  | .textList, j =>
    match j with
    | .arr xs =>
      (Checked.gather (xs.zipIdx.map fun (v, i) =>
        Checked.under (.index i) (lift .str (readText v)))).map .arr
    | _ => Checked.fault .notList
  | .optionalMap, j =>
    match j with
    | .null => .ok .null
    | .obj _ => .ok j
    | _ => Checked.fault .notMap
  | .literal expected, j =>
    if j = .str expected then .ok j
    else Checked.fault (if j.text.isProper then .notLiteral expected else .notUnicode)
  | .choice expected, j =>
    match j with
    | .str (.proper s) =>
      if expected.contains s then .ok j else Checked.fault (.notChoice expected)
    | .str (.broken _) => Checked.fault .notUnicode
    | _ => Checked.fault (.notChoice expected)

end WorkflowEngine.Schema
