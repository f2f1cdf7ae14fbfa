import WorkflowEngine.Json.Basic
import WorkflowEngine.Text.Blank

/-!
# Issues found by a schema

A `Fault` is one way in which a value can miss its schema, and an `Issue` is a
fault together with the path to the value.  Each fault has a code for programs and
a message for people.
-/

namespace WorkflowEngine.Schema

/-- One step of the path to a value. -/
inductive PathStep where
  | key (name : Text)
  | index (i : Nat)
  /-- The name of one of the shapes that the value may have; it leads no further in. -/
  | alternative (name : String)
deriving DecidableEq

def PathStep.text : PathStep → String
  | .key name => name.lossy
  | .alternative name => name
  | .index i => toString i

/-- A step as a JSON value. -/
def PathStep.json : PathStep → Json
  | .index i => .nat i
  | step => .str step.text

/-- The kinds of elements of a workflow that carry unique ids. -/
inductive ElementSort where
  | node
  | edge
deriving DecidableEq

def ElementSort.name : ElementSort → String
  | .node => "node"
  | .edge => "edge"

/-- Why a value spells no point in time. -/
inductive InstantFault where
  | tooShort
  | extraCharacters
  | badSeparator
  | badYear
  | badMonth
  | badDay
  | noSuchMonth
  | noSuchDay
  | yearZero
  | beforeYearZero
  | afterYear9999
  | notNumber
deriving DecidableEq

/-- The reason in words. -/
def InstantFault.reason : InstantFault → String
  | .tooShort => "input is too short"
  | .extraCharacters => "unexpected extra characters at the end of the input"
  | .badSeparator => "invalid date separator, expected \x60-\x60"
  | .badYear => "invalid character in year"
  | .badMonth => "invalid character in month"
  | .badDay => "invalid character in day"
  | .noSuchMonth => "month value is outside expected range of 1-12"
  | .noSuchDay => "day value is outside expected range"
  | .yearZero => "year 0 is out of range"
  | .beforeYearZero => "dates before 0000 are not supported as unix timestamps"
  | .afterYear9999 => "dates after 9999 are not supported as unix timestamps"
  | .notNumber => "NaN values not permitted"

/-- A way in which a value misses its schema. -/
inductive Fault where
  /-- A required field is absent. -/
  | missing
  /-- Not an object. -/
  | notObject
  | notText
  /-- A text that has to be a string is none. -/
  | notUnicode
  | emptyText
  | notList
  | notMap
  | notFlag
  | unreadableFlag
  | notInteger
  | unreadableInteger
  | oversizeInteger
  | fractionalInteger
  | infiniteInteger
  | notNumber
  | unreadableNumber
  | belowZero
  /-- An object without the member that tells its kind. -/
  | tagMissing
  /-- An object whose kind is not one of the expected ones. -/
  | tagUnknown (shown : String) (expected : List String)
  /-- Not the one text that is allowed. -/
  | notLiteral (expected : String)
  /-- Not one of the texts that are allowed. -/
  | notChoice (expected : List String)
  | notInstant
  /-- A point in time that does not exist. -/
  | badInstant (why : InstantFault)
  /-- Neither a point in time nor a date. -/
  | badDate (why : InstantFault)
  /-- Ids that should be unique occur more than once. -/
  | repeatedIds (sort : ElementSort) (ids : List String)
deriving DecidableEq

namespace Fault

/-- A text in single quotes. -/
def quoted (s : String) : String := "'" ++ s ++ "'"

/-- Alternatives in quotes, the last one behind the word or. -/
def alternatives : List String → String
  | [] => ""
  | [s] => quoted s
  | [s, t] => quoted s ++ " or " ++ quoted t
  | s :: rest => quoted s ++ ", " ++ alternatives rest

def code : Fault → String
  | .missing => "missing"
  | .notObject => "model_attributes_type"
  | .notText => "string_type"
  | .notUnicode => "string_unicode"
  | .emptyText => "string_too_short"
  | .notList => "list_type"
  | .notMap => "dict_type"
  | .notFlag => "bool_type"
  | .unreadableFlag => "bool_parsing"
  | .notInteger => "int_type"
  | .unreadableInteger => "int_parsing"
  | .oversizeInteger => "int_parsing_size"
  | .fractionalInteger => "int_from_float"
  | .infiniteInteger => "finite_number"
  | .notNumber => "float_type"
  | .unreadableNumber => "float_parsing"
  | .belowZero => "greater_than_equal"
  | .tagMissing => "union_tag_not_found"
  | .tagUnknown _ _ => "union_tag_invalid"
  | .notLiteral _ => "literal_error"
  | .notChoice _ => "enum"
  | .notInstant => "datetime_type"
  | .badInstant _ => "datetime_parsing"
  | .badDate _ => "datetime_from_date_parsing"
  | .repeatedIds _ _ => "value_error"

def message : Fault → String
  | .missing => "Field required"
  | .notObject => "Input should be a valid dictionary or object to extract fields from"
  | .notText => "Input should be a valid string"
  | .notUnicode => "Input should be a valid string, unable to parse raw data as a unicode string"
  | .emptyText => "String should have at least 1 character"
  | .notList => "Input should be a valid list"
  | .notMap => "Input should be a valid dictionary"
  | .notFlag => "Input should be a valid boolean"
  | .unreadableFlag => "Input should be a valid boolean, unable to interpret input"
  | .notInteger => "Input should be a valid integer"
  | .unreadableInteger => "Input should be a valid integer, unable to parse string as an integer"
  | .oversizeInteger => "Unable to parse input string as an integer, exceeded maximum size"
  | .fractionalInteger => "Input should be a valid integer, got a number with a fractional part"
  | .infiniteInteger => "Input should be a finite number"
  | .notNumber => "Input should be a valid number"
  | .unreadableNumber => "Input should be a valid number, unable to parse string as a number"
  | .belowZero => "Input should be greater than or equal to 0"
  | .tagMissing => "Unable to extract tag using discriminator 'type'"
  | .tagUnknown shown expected =>
    "Input tag '" ++ shown ++ "' found using 'type' does not match any of the expected tags: " ++
      Text.join ", " (expected.map quoted)
  | .notLiteral expected => "Input should be " ++ quoted expected
  | .notChoice expected => "Input should be " ++ alternatives expected
  | .notInstant => "Input should be a valid datetime"
  | .badInstant why => "Input should be a valid datetime, " ++ why.reason
  | .badDate why => "Input should be a valid datetime or date, " ++ why.reason
  | .repeatedIds sort ids =>
    "Value error, Duplicate " ++ sort.name ++ " ids: " ++ Text.join ", " ids

end Fault

/-- A fault at the end of a path. -/
structure Issue where
  fault : Fault
  path : List PathStep
deriving DecidableEq

namespace Issue

/-- A fault of the value itself. -/
def here (fault : Fault) : Issue := ⟨fault, []⟩

/-- The same issue seen from one level further out. -/
def under (step : PathStep) (i : Issue) : Issue := ⟨i.fault, step :: i.path⟩

end Issue

/-- What a check finds: a value, or at least one issue. -/
abbrev Checked (α : Type) := Except (List Issue) α

namespace Checked

/-- A single issue at the value itself. -/
def fault {α : Type} (f : Fault) : Checked α := .error [Issue.here f]

/-- Move the issues of a check one level further in. -/
def under {α : Type} (step : PathStep) (c : Checked α) : Checked α :=
  c.mapError (List.map (Issue.under step))

/-- Put the results of independent checks together.  The issues of all of them are
reported, in order. -/
def gather {α : Type} : List (Checked α) → Checked (List α)
  | [] => .ok []
  | c :: cs =>
    match c, gather cs with
    | .ok x, .ok xs => .ok (x :: xs)
    | .ok _, .error is => .error is
    | .error is, .ok _ => .error is
    | .error is, .error js => .error (is ++ js)

end Checked

end WorkflowEngine.Schema
