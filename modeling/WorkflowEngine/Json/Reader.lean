import WorkflowEngine.Json.Basic

/-!
# Reading JSON text

`Json.read` reads one value from a text, blanks around it allowed.  Besides the
standard literals it accepts `NaN`, `Infinity` and `-Infinity`, and it keeps
integers apart from numbers with a fraction or an exponent.  Strings may hold
surrogates on their own, as code points of the text or as escapes.  A text that
cannot be read is answered with the position at which reading stopped.

The readers work on the list of code points that are left.  A failure carries how
many were left at the fault, and the position follows from the length of the whole
text.  Values are read at any depth; that a process has a limit on nesting is left
out.
-/

namespace WorkflowEngine

/-- Why a text cannot be read. -/
inductive ReadFault where
  /-- No JSON text can continue as this one does at the position. -/
  | malformed (position : Nat)
  /-- An integer literal has more digits than are accepted. -/
  | tooManyDigits (count : Nat)
deriving DecidableEq

namespace Json

/-- A fault seen from the end of the text: how many code points were left. -/
inductive Stop where
  | malformed (left : Nat)
  | tooManyDigits (count : Nat)

/-- A reader takes elements of a text from the front and returns what is left. -/
abbrev Reader (γ α : Type) := List γ → Except Stop (α × List γ)

/-- Stop at the first of the given elements. -/
def stopAt {γ α : Type} (cs : List γ) : Except Stop α := .error (.malformed cs.length)

/-- The blanks allowed between tokens. -/
def isBlank (c : Char) : Bool := c = ' ' || c = '\t' || c = '\n' || c = '\r'

/-- What is left after the blanks at the front. -/
def skipBlanks (ps : List CodePoint) : List CodePoint := ps.dropWhile (·.satisfies isBlank)

/-- A decimal digit. -/
def isDigit (c : Char) : Bool := '0' ≤ c && c ≤ '9'

/-- The value of a decimal digit. -/
def digitValue (c : Char) : Nat := c.toNat - '0'.toNat

/-- The number spelled by decimal digits. -/
def natOfDigits (cs : List Char) : Nat := cs.foldl (fun n c => 10 * n + digitValue c) 0

/-- The value of a hexadecimal digit of either case. -/
def hexValue? (c : Char) : Option Nat :=
  if isDigit c then some (digitValue c)
  else if 'a' ≤ c ∧ c ≤ 'f' then some (c.toNat - 'a'.toNat + 10)
  else if 'A' ≤ c ∧ c ≤ 'F' then some (c.toNat - 'A'.toNat + 10)
  else none

/-- The unit spelled by the first four code points, if they are hexadecimal digits,
and what is left. -/
def hexUnit? : List CodePoint → Option (Nat × List CodePoint)
  | .char a :: .char b :: .char c :: .char d :: rest => do
    let a ← hexValue? a
    let b ← hexValue? b
    let c ← hexValue? c
    let d ← hexValue? d
    return (a * 4096 + b * 256 + c * 16 + d, rest)
  | _ => none

/-- The character written by a two-character escape. -/
def simpleEscape? (c : Char) : Option Char :=
  if c = '"' then some '"'
  else if c = '\\' then some '\\'
  else if c = '/' then some '/'
  else if c = 'b' then some (Char.ofNat 8)
  else if c = 'f' then some (Char.ofNat 12)
  else if c = 'n' then some '\n'
  else if c = 'r' then some '\r'
  else if c = 't' then some '\t'
  else none

/-- A unit in the range that opens a surrogate pair. -/
def isHighSurrogate (n : Nat) : Bool := 0xD800 ≤ n && n < 0xDC00

/-- A unit in the range that closes a surrogate pair. -/
def isLowSurrogate (n : Nat) : Bool := 0xDC00 ≤ n && n < 0xE000

/-- The number of the character written by a surrogate pair. -/
def pairNumber (high low : Nat) : Nat := 0x10000 + (high - 0xD800) * 0x400 + (low - 0xDC00)

/-- Read what follows the `u` of an escape.  `fromLetter` is the text from that letter
on: faults of the digits are reported there.  A unit that opens a pair is joined with a
second escape that closes it; a surrogate without a partner stands on its own. -/
def readUnit (fromLetter : List CodePoint) : Reader CodePoint CodePoint := fun ps =>
  if (ps.drop 4).isEmpty then stopAt fromLetter
  else match hexUnit? ps with
    | none => stopAt fromLetter
    | some (high, rest) =>
      match rest with
      | .char '\\' :: .char 'u' :: more =>
        if isHighSurrogate high ∧ ¬ (more.drop 4).isEmpty then
          match hexUnit? more with
          | none => stopAt (.char 'u' :: more)
          | some (low, after) =>
            if isLowSurrogate low then .ok (.ofNat (pairNumber high low), after)
            else .ok (.ofNat high, rest)
        else .ok (.ofNat high, rest)
      | _ => .ok (.ofNat high, rest)

/-- Read a string after its opening quote.  `opening` is the text from that quote
on: a string that never ends is reported there.  The fuel is at least the number of
code points that are left and one more. -/
def readString (opening : List CodePoint) : Nat → List CodePoint → Reader CodePoint Text
  | 0, _, _ => stopAt opening
  | fuel + 1, seen, ps =>
    match ps with
    | [] => stopAt opening
    | .char '"' :: rest => .ok (Text.ofPoints seen.reverse, rest)
    | .char '\\' :: .char 'u' :: rest =>
      match readUnit (.char 'u' :: rest) rest with
      | .error stop => .error stop
      | .ok (p, after) => readString opening fuel (p :: seen) after
    | .char '\\' :: .char e :: rest =>
      match simpleEscape? e with
      | none => stopAt ps
      | some c => readString opening fuel (.char c :: seen) rest
    | .char '\\' :: .surrogate _ :: _ => stopAt ps
    | [.char '\\'] => stopAt opening
    | .char c :: rest =>
      if c.toNat < 0x20 then stopAt ps else readString opening fuel (.char c :: seen) rest
    | p :: rest => readString opening fuel (p :: seen) rest

/-- The integer part of a number: a zero alone, or digits that start with another
digit. -/
def integerPart : List Char → List Char
  | '0' :: _ => ['0']
  | cs => cs.takeWhile isDigit

/-- The digits of a fraction, if a point with at least one digit comes first. -/
def fractionPart : List Char → Option (List Char)
  | '.' :: rest =>
    let ds := rest.takeWhile isDigit
    if ds.isEmpty then none else some ds
  | _ => none

/-- The exponent and how many characters it takes, if there is one with at least
one digit. -/
def exponentPart : List Char → Option (Int × Nat)
  | c :: rest =>
    if c = 'e' ∨ c = 'E' then
      let (sign, signSize, body) : Int × Nat × List Char := match rest with
        | '-' :: more => (-1, 1, more)
        | '+' :: more => (1, 1, more)
        | _ => (1, 0, rest)
      let ds := body.takeWhile isDigit
      if ds.isEmpty then none
      else some (sign * natOfDigits ds, 1 + signSize + ds.length)
    else none
  | [] => none

/-- Read a number; its sign has been taken off.  A fraction or exponent makes it a
binary64 number, and otherwise it is an integer. -/
def readNumber (start : List Char) (negative : Bool) : Reader Char Json := fun cs =>
  let whole := integerPart cs
  if whole.isEmpty then stopAt start
  else
    let afterWhole := cs.drop whole.length
    let fraction := fractionPart afterWhole
    let afterFraction := match fraction with
      | some ds => afterWhole.drop (ds.length + 1)
      | none => afterWhole
    let exponent := exponentPart afterFraction
    let rest := match exponent with
      | some (_, size) => afterFraction.drop size
      | none => afterFraction
    if fraction.isNone ∧ exponent.isNone then
      if digitLimit < whole.length then .error (.tooManyDigits whole.length)
      else
        let n : Int := natOfDigits whole
        .ok (.int (if negative then -n else n), rest)
    else
      let places := fraction.getD []
      let power := (exponent.map (·.1)).getD 0 - places.length
      .ok (.float (Binary64.ofDecimal negative (natOfDigits (whole ++ places)) power), rest)

/-- What is left after a word at the front, if it is there. -/
def after? (word : String) (cs : List Char) : Option (List Char) :=
  if word.toList.isPrefixOf cs then some (cs.drop word.length) else none

/-- The literal words and their values. -/
def words : List (String × Json) :=
  [("null", .null), ("true", .bool true), ("false", .bool false), ("NaN", .float .nan),
    ("Infinity", .float (.infinity false)), ("-Infinity", .float (.infinity true))]

/-- Read a value that has no parts from characters. -/
def readPlain : Reader Char Json := fun cs =>
  match words.findSome? fun (word, j) => (after? word cs).map (j, ·) with
  | some found => .ok found
  | none =>
    match cs with
    | '-' :: rest => readNumber cs true rest
    | _ => readNumber cs false cs

/-- Read a value that has no parts.  No word and no number goes on with a surrogate or
with the character that stands for it. -/
def readLeaf : Reader CodePoint Json := fun ps =>
  (readPlain (ps.map CodePoint.shown)).map fun (j, rest) => (j, ps.drop (ps.length - rest.length))

mutual

/-- Read a value.  The fuel bounds the number of steps; it is at least twice the number of
code points that are left, and one more for items and members. -/
def readValue : Nat → Reader CodePoint Json
  | 0, ps => stopAt ps
  | fuel + 1, ps =>
    match ps with
    | .char '"' :: rest =>
      match readString ps fuel [] rest with
      | .error stop => .error stop
      | .ok (t, after) => .ok (.str t, after)
    | .char '[' :: rest =>
      match skipBlanks rest with
      | .char ']' :: after => .ok (.arr [], after)
      | inner =>
        match readItems fuel inner with
        | .error stop => .error stop
        | .ok (xs, after) => .ok (.arr xs, after)
    | .char '{' :: rest =>
      match skipBlanks rest with
      | .char '}' :: after => .ok (.obj [], after)
      | inner =>
        match readMembers fuel inner with
        | .error stop => .error stop
        | .ok (pairs, after) => .ok (.obj (Members.ofPairs pairs), after)
    | _ => readLeaf ps

/-- Read the items of an array up to its closing bracket; at least one comes. -/
def readItems : Nat → Reader CodePoint (List Json)
  | 0, ps => stopAt ps
  | fuel + 1, ps =>
    match readValue fuel ps with
    | .error stop => .error stop
    | .ok (x, after) =>
      match skipBlanks after with
      | .char ']' :: rest => .ok ([x], rest)
      | .char ',' :: rest =>
        match readItems fuel (skipBlanks rest) with
        | .error stop => .error stop
        | .ok (xs, rest) => .ok (x :: xs, rest)
      | other => stopAt other

/-- Read the members of an object up to its closing brace; at least one comes. -/
def readMembers : Nat → Reader CodePoint (List (Text × Json))
  | 0, ps => stopAt ps
  | fuel + 1, ps =>
    match ps with
    | .char '"' :: rest =>
      match readString ps fuel [] rest with
      | .error stop => .error stop
      | .ok (key, after) =>
        match skipBlanks after with
        | .char ':' :: rest =>
          match readValue fuel (skipBlanks rest) with
          | .error stop => .error stop
          | .ok (v, after) =>
            match skipBlanks after with
            | .char '}' :: rest => .ok ([(key, v)], rest)
            | .char ',' :: rest =>
              match readMembers fuel (skipBlanks rest) with
              | .error stop => .error stop
              | .ok (pairs, rest) => .ok ((key, v) :: pairs, rest)
            | other => stopAt other
        | other => stopAt other
    | _ => stopAt ps

end

/-- Enough fuel for every text: each step takes a code point. -/
def fuelFor (ps : List CodePoint) : Nat := 2 * ps.length + 2

/-- Read one value with blanks around it, up to the end. -/
def readWhole (ps : List CodePoint) : Except Stop Json :=
  match readValue (fuelFor ps) (skipBlanks ps) with
  | .error stop => .error stop
  | .ok (j, after) =>
    match skipBlanks after with
    | [] => .ok j
    | extra => stopAt extra

/-- A stop as a fault of a text of the given length. -/
def Stop.fault (length : Nat) : Stop → ReadFault
  | .malformed left => .malformed (length - left)
  | .tooManyDigits count => .tooManyDigits count

/-- Read code points that spell one value and blanks around it. -/
def readPoints (ps : List CodePoint) : Except ReadFault Json :=
  (readWhole ps).mapError (Stop.fault ps.length)

/-- The character that marks the byte order at the front of a text. -/
def byteOrderMark : Char := '\uFEFF'

/-- Read a text.  One that begins with a byte order mark is refused there. -/
def read (text : Text) : Except ReadFault Json :=
  match text.points with
  | p :: rest => if p = .char byteOrderMark then .error (.malformed 0) else readPoints (p :: rest)
  | [] => readPoints []

end Json

end WorkflowEngine
