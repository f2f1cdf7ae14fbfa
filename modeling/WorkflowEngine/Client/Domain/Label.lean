import WorkflowEngine.Client.Composition
import WorkflowEngine.Client.Domain.Context
import WorkflowEngine.Client.Domain.Direction
import WorkflowEngine.Client.Domain.Punycode
import WorkflowEngine.Json.Display

/-!
# Labels

A label is the part of a domain name between two points.  A label outside ASCII is sent in
an encoded form: the letters `xn--` with its spelling in Punycode behind them.  Both forms
have to hold a valid label.
-/

namespace WorkflowEngine.Domain

/-- Why a text is no label.  Positions count from one. -/
inductive LabelFault where
  | empty
  /-- The label is not spelled in the composed way. -/
  | notComposed
  /-- Hyphens at the third and the fourth place. -/
  | innerHyphens
  /-- A hyphen at an end. -/
  | outerHyphen
  /-- A mark at the front. -/
  | leadingMark
  /-- A character that belongs to no label. -/
  | foreign (label : List Nat) (position : Nat)
  /-- A joiner where it has no meaning. -/
  | idleJoiner (label : List Nat) (position : Nat)
  /-- A sign or a digit without the company that it needs. -/
  | lonely (label : List Nat) (position : Nat)
  /-- A character without a name before a joiner. -/
  | nameless
  | direction (fault : DirectionFault)
  /-- An encoded form without content. -/
  | noContent
  /-- An encoded form with a hyphen at its end. -/
  | lastHyphen
  /-- An encoded form that spells nothing. -/
  | unreadable
  | tooLong
deriving DecidableEq

/-! ## Messages -/

/-- The hexadecimal digits of a number, in capitals and four at least. -/
def codeText (n : Nat) : String :=
  let digits := (Nat.toDigits 16 n).map Char.toUpper
  "U+" ++ String.ofList (List.replicate (4 - digits.length) '0' ++ digits)

/-- A label in quotes. -/
def shownLabel (label : List Nat) : String :=
  let quote :=
    if label.contains Json.singleQuote.toNat ∧ ¬ label.contains '"'.toNat then '"'
    else Json.singleQuote
  let shown := label.flatMap fun n =>
    if n.isValidChar then Json.displayChar quote (Char.ofNat n) else Json.escapedNumber n
  String.ofList (quote :: shown ++ [quote])

/-- The character of a label at a position. -/
def codeAt (label : List Nat) (position : Nat) : String :=
  codeText (label[position - 1]?.getD 0)

def DirectionFault.message : DirectionFault → String
  | .unknown label position =>
    "Unknown directionality in label " ++ shownLabel label ++ " at position " ++ toString position
  | .start label =>
    "First codepoint in label " ++ shownLabel label ++ " must be directionality L, R or AL"
  | .insideRightToLeft position =>
    "Invalid direction for codepoint at position " ++ toString position ++
      " in a right-to-left label"
  | .insideLeftToRight position =>
    "Invalid direction for codepoint at position " ++ toString position ++
      " in a left-to-right label"
  | .mixedNumbers => "Can not mix numeral types in a right-to-left label"
  | .ending => "Label ends with illegal codepoint directionality"

def LabelFault.message : LabelFault → String
  | .empty => "Empty Label"
  | .notComposed => "Label must be in Normalization Form C"
  | .innerHyphens => "Label has disallowed hyphens in 3rd and 4th position"
  | .outerHyphen => "Label must not start or end with a hyphen"
  | .leadingMark => "Label begins with an illegal combining character"
  | .foreign label position =>
    "Codepoint " ++ codeAt label position ++ " at position " ++ toString position ++ " of " ++
      shownLabel label ++ " not allowed"
  | .idleJoiner label position =>
    "Joiner " ++ codeAt label position ++ " not allowed at position " ++ toString position ++
      " in " ++ shownLabel label
  | .lonely label position =>
    "Codepoint " ++ codeAt label position ++ " not allowed at position " ++ toString position ++
      " in " ++ shownLabel label
  | .nameless => "no such name"
  | .direction fault => fault.message
  | .noContent => "Malformed A-label, no Punycode eligible content found"
  | .lastHyphen => "A-label must not end with a hyphen"
  | .unreadable => "Invalid A-label"
  | .tooLong => "Label too long"

/-! ## Validity -/

/-- Check a character of a label between those before it, the nearest first, and those
behind it. -/
def checkCharacter (label before : List Nat) (n : Nat) (behind : List Nat) :
    Except LabelFault Unit :=
  let position := before.length + 1
  if isLetter n then .ok ()
  else if n = joiner ∨ n = nonJoiner then
    match joinerFits? before n behind with
    | none => .error .nameless
    | some true => .ok ()
    | some false => .error (.idleJoiner label position)
  else if needsCompany n then
    if companyFits before n behind then .ok () else .error (.lonely label position)
  else .error (.foreign label position)

/-- Check the characters of a label behind some that have been checked. -/
def checkBehind (label before : List Nat) : List Nat → Except LabelFault Unit
  | [] => .ok ()
  | n :: behind => do
    checkCharacter label before n behind
    checkBehind label (n :: before) behind

def hyphen : Nat := '-'.toNat

/-- Check that a text is a label. -/
def checkLabel (label : List Nat) : Except LabelFault Unit := do
  if label.isEmpty then throw .empty
  if !Text.Composition.isComposed label then throw .notComposed
  if label[2]? = some hyphen ∧ label[3]? = some hyphen then throw .innerHyphens
  if label.head? = some hyphen ∨ label.getLast? = some hyphen then throw .outerHyphen
  if label.head?.any Text.isMark then throw .leadingMark
  checkBehind label [] label
  (checkDirections label).mapError .direction

/-! ## Encoded forms -/

/-- What an encoded form begins with. -/
def encodedMark : List Char := "xn--".toList

/-- The greatest number of characters of a label in ASCII. -/
def labelLimit : Nat := 63

/-- The label that is meant by one in ASCII. -/
def decodeLabel (cs : List Char) : Except LabelFault (List Nat) := do
  let small := cs.map Char.toLower
  if encodedMark.isPrefixOf small then
    let content := small.drop encodedMark.length
    if content.isEmpty then throw .noContent
    if content.getLast? = some '-' then throw .lastHyphen
    match Punycode.decode? content with
    | none => throw .unreadable
    | some label =>
      checkLabel label
      return label
  else
    let label := small.map Char.toNat
    checkLabel label
    return label

/-- Whether a character is one of ASCII. -/
def isBasic (c : Char) : Bool := Punycode.isBasic c.toNat

/-- The form of a label in ASCII. -/
def encodeLabel (cs : List Char) : Except LabelFault (List Char) := do
  let encoded ←
    if cs.all isBasic then do
      let _ ← decodeLabel cs
      pure cs
    else do
      let label := cs.map Char.toNat
      checkLabel label
      pure (encodedMark ++ Punycode.encode label)
  if labelLimit < encoded.length then throw .tooLong
  return encoded

end WorkflowEngine.Domain
