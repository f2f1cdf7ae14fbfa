import WorkflowEngine.Json.Basic
import WorkflowEngine.Number.Format

/-!
# Writing JSON text

A `JsonStyle` holds the choices that differ between the texts the engine writes:
the blanks after separators, whether only ASCII may appear, and the number
format.  Documents are written in `JsonStyle.document`, indented or compact, and
log lines in `JsonStyle.log`.

A value is written at any depth; that a process has a limit on nesting is left out.
Surrogates are escaped, which only the console style is used for: no encoding holds
them, so whoever sends or saves a text asks first whether the value is proper.
-/

namespace WorkflowEngine

/-- How a JSON text is laid out on one line. -/
structure JsonStyle where
  /-- Written between two items. -/
  separator : String
  /-- Written between a key and its value. -/
  colon : String
  /-- Escape every character outside the printable ASCII range. -/
  asciiOnly : Bool
  floats : FloatFormat

namespace JsonStyle

/-- Compact documents. -/
def document : JsonStyle := ⟨",", ":", false, .document⟩

/-- Log lines. -/
def log : JsonStyle := ⟨", ", ": ", false, .log⟩

/-- The context shown on a console. -/
def console : JsonStyle := { log with asciiOnly := true }

end JsonStyle

namespace Json

/-- The lower-case hexadecimal digit of a number below sixteen. -/
def hexDigit (n : Nat) : Char :=
  if n < 10 then Char.ofNat ('0'.toNat + n) else Char.ofNat ('a'.toNat + (n - 10))

/-- A sixteen-bit unit as an escape with four hexadecimal digits. -/
def unitEscape (n : Nat) : List Char :=
  ['\\', 'u', hexDigit (n / 4096 % 16), hexDigit (n / 256 % 16), hexDigit (n / 16 % 16),
    hexDigit (n % 16)]

/-- The escape of a character by its number: one unit, or two above U+FFFF. -/
def numericEscape (c : Char) : List Char :=
  let n := c.toNat
  if n < 0x10000 then unitEscape n
  else unitEscape (0xD800 + (n - 0x10000) / 0x400) ++ unitEscape (0xDC00 + (n - 0x10000) % 0x400)

/-- A character inside a string.  Quotes, backslashes and control characters are
escaped in every style. -/
def escape (asciiOnly : Bool) (c : Char) : List Char :=
  if c = '"' then ['\\', '"']
  else if c = '\\' then ['\\', '\\']
  else if c = '\n' then ['\\', 'n']
  else if c = '\r' then ['\\', 'r']
  else if c = '\t' then ['\\', 't']
  else if c.toNat = 8 then ['\\', 'b']
  else if c.toNat = 12 then ['\\', 'f']
  else if c.toNat < 0x20 then numericEscape c
  else if asciiOnly ∧ 0x7F ≤ c.toNat then numericEscape c
  else [c]

/-- A code point inside a string.  A surrogate is escaped in every style. -/
def escapePoint (asciiOnly : Bool) : CodePoint → List Char
  | .char c => escape asciiOnly c
  | p => unitEscape p.toNat

/-- A text in quotes. -/
def quoteChars (asciiOnly : Bool) (t : Text) : List Char :=
  '"' :: t.points.flatMap (escapePoint asciiOnly) ++ ['"']

/-- A string is written character by character. -/
@[simp] theorem quoteChars_proper (asciiOnly : Bool) (s : String) :
    quoteChars asciiOnly (.proper s) = '"' :: s.toList.flatMap (escape asciiOnly) ++ ['"'] := by
  rw [quoteChars, Text.points_proper, List.flatMap_map]
  rfl

/-- The text of a value that has no parts. -/
def leafChars (style : JsonStyle) : Json → List Char
  | .null => ['n', 'u', 'l', 'l']
  | .bool true => ['t', 'r', 'u', 'e']
  | .bool false => ['f', 'a', 'l', 's', 'e']
  | .int n => intChars n
  | .float x => style.floats.chars x
  | .str t => quoteChars style.asciiOnly t
  | .arr _ => ['[', ']']
  | .obj _ => ['{', '}']

mutual

/-- The text of a value on one line. -/
def chars (style : JsonStyle) : Json → List Char
  | .arr [] => ['[', ']']
  | .arr (x :: xs) => '[' :: chars style x ++ itemChars style xs ++ [']']
  | .obj [] => ['{', '}']
  | .obj ((k, v) :: ms) =>
    '{' :: quoteChars style.asciiOnly k ++ style.colon.toList ++ chars style v ++
      memberChars style ms ++ ['}']
  | j => leafChars style j

/-- The items after the first, each behind a separator. -/
def itemChars (style : JsonStyle) : List Json → List Char
  | [] => []
  | x :: xs => style.separator.toList ++ chars style x ++ itemChars style xs

/-- The members after the first, each behind a separator. -/
def memberChars (style : JsonStyle) : List (Text × Json) → List Char
  | [] => []
  | (k, v) :: ms =>
    style.separator.toList ++ quoteChars style.asciiOnly k ++ style.colon.toList ++
      chars style v ++ memberChars style ms

end

/-- A line break followed by two blanks for each level. -/
def newline (depth : Nat) : List Char := '\n' :: List.replicate (2 * depth) ' '

mutual

/-- The text of a value over several lines, each level two blanks further in. -/
def indentedChars (style : JsonStyle) (depth : Nat) : Json → List Char
  | .arr [] => ['[', ']']
  | .arr (x :: xs) =>
    '[' :: newline (depth + 1) ++ indentedChars style (depth + 1) x ++
      indentedItems style (depth + 1) xs ++ newline depth ++ [']']
  | .obj [] => ['{', '}']
  | .obj ((k, v) :: ms) =>
    '{' :: newline (depth + 1) ++ quoteChars style.asciiOnly k ++ [':', ' '] ++
      indentedChars style (depth + 1) v ++ indentedMembers style (depth + 1) ms ++
      newline depth ++ ['}']
  | j => leafChars style j

/-- The items after the first, each on its own line. -/
def indentedItems (style : JsonStyle) (depth : Nat) : List Json → List Char
  | [] => []
  | x :: xs =>
    ',' :: newline depth ++ indentedChars style depth x ++ indentedItems style depth xs

/-- The members after the first, each on its own line. -/
def indentedMembers (style : JsonStyle) (depth : Nat) : List (Text × Json) → List Char
  | [] => []
  | (k, v) :: ms =>
    ',' :: newline depth ++ quoteChars style.asciiOnly k ++ [':', ' '] ++
      indentedChars style depth v ++ indentedMembers style depth ms

end

/-- Whether no integer in a value is too long to be shown.  Log lines show no others; documents
are written whatever the length. -/
def hasShortIntegers : Json → Bool :=
  passes (fun | .int n => decide ((digitChars n.natAbs).length ≤ digitLimit) | _ => true)
    fun _ => true

/-- A value as compact document text. -/
def compact (j : Json) : String := String.ofList (j.chars .document)

/-- A value as indented document text. -/
def pretty (j : Json) : String := String.ofList (j.indentedChars .document 0)

/-- A value as one log line. -/
def logLine (j : Json) : String := String.ofList (j.chars .log)

end Json

end WorkflowEngine
