import WorkflowEngine.Json.Writer
import WorkflowEngine.Text.Printable

/-!
# Showing a value inside a message

A message that quotes a JSON value shows texts bare at the top and quoted further
in, and spells the literals `None`, `True` and `False`.
-/

namespace WorkflowEngine.Json

/-- The last hexadecimal digits of a number. -/
def hexDigits : Nat → Nat → List Char
  | 0, _ => []
  | width + 1, n => hexDigits width (n / 16) ++ [hexDigit (n % 16)]

/-- The escape for a number with as many hexadecimal digits as it needs: two, four or
eight. -/
def escapedNumber (n : Nat) : List Char :=
  if n < 0x100 then '\\' :: 'x' :: hexDigits 2 n
  else if n < 0x10000 then '\\' :: 'u' :: hexDigits 4 n
  else '\\' :: 'U' :: hexDigits 8 n

def escapedChar (c : Char) : List Char := escapedNumber c.toNat

/-- A character of a quoted text between the given quotes. -/
def displayChar (quote : Char) (c : Char) : List Char :=
  if c = quote ∨ c = '\\' then ['\\', c]
  else if c = '\n' then ['\\', 'n']
  else if c = '\r' then ['\\', 'r']
  else if c = '\t' then ['\\', 't']
  else if !Text.isPrintable c then escapedChar c
  else [c]

/-- A code point of a quoted text; a surrogate is escaped. -/
def displayPoint (quote : Char) : CodePoint → List Char
  | .char c => displayChar quote c
  | p => escapedNumber p.toNat

def singleQuote : Char := Char.ofNat 0x27

/-- A text in quotes: single ones, unless it holds single but no double ones. -/
def displayQuoted (t : Text) : List Char :=
  let quote :=
    if t.points.contains (.char singleQuote) ∧ ¬ t.points.contains (.char '"') then '"'
    else singleQuote
  quote :: t.points.flatMap (displayPoint quote) ++ [quote]

mutual

/-- A value as a part of a shown value. -/
def displayPart : Json → List Char
  | .null => "None".toList
  | .bool true => "True".toList
  | .bool false => "False".toList
  | .int n => intChars n
  | .float x => FloatFormat.quoted.chars x
  | .str t => displayQuoted t
  | .arr [] => ['[', ']']
  | .arr (x :: xs) => '[' :: displayPart x ++ displayItems xs ++ [']']
  | .obj [] => ['{', '}']
  | .obj ((k, v) :: ms) =>
    '{' :: displayQuoted k ++ [':', ' '] ++ displayPart v ++ displayMembers ms ++ ['}']

/-- The items after the first. -/
def displayItems : List Json → List Char
  | [] => []
  | x :: xs => ',' :: ' ' :: displayPart x ++ displayItems xs

/-- The members after the first. -/
def displayMembers : List (Text × Json) → List Char
  | [] => []
  | (k, v) :: ms =>
    ',' :: ' ' :: displayQuoted k ++ [':', ' '] ++ displayPart v ++ displayMembers ms

end

/-- A value as a message shows it. -/
def display : Json → String
  | .str t => t.lossy
  | j => String.ofList j.displayPart

end WorkflowEngine.Json
