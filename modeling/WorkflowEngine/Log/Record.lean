import WorkflowEngine.Calendar
import WorkflowEngine.Json.Writer
import WorkflowEngine.Log.Entry

/-!
# Log records and their lines

A record is an entry together with its time, its place in the program and the
failure it reports.  A `LineFormat` turns a record into a line, or fails where the time or
an integer of the record cannot be shown.  A line with a surrogate in it is made, but no
stream takes it, so such a record is not written either.  The colored format writes its
decorations into the record, so a line answers with the record as it is afterwards.

Messages are whole: that values can be filled into a message when it is written is left
out, as is a stack that is shown beside a failure.
-/

namespace WorkflowEngine.Log

/-! ## Time -/

/-- A time in seconds since the start of 1970. -/
inductive Timestamp where
  | whole (seconds : Int)
  | exact (seconds : Binary64)

namespace Timestamp

/-- Whole seconds, rounded down. -/
def floorSeconds : Timestamp → Int
  | .whole n => n
  | .exact x => x.floor

/-- Seconds and microseconds.  The fraction is multiplied by a million as a binary64
number and then rounded, a half going to the even neighbour. -/
def parts : Timestamp → Int × Nat
  | .whole n => (n, 0)
  | .exact x =>
    let (num, den) := x.ratio
    let (product, unit) := (Binary64.round false (num % den * 1000000) den).ratio
    let micros := x.signed (num / den) * 1000000 + x.signed (Binary64.roundHalfEven product unit)
    (Int.fdiv micros 1000000, (Int.fmod micros 1000000).toNat)

/-- The time in universal time with its fraction. -/
def isoChars (t : Timestamp) : List Char :=
  Calendar.timeChars 4 'T' t.parts.1 ++ Calendar.fractionChars t.parts.2 ++ ['Z']

/-- The time in universal time in whole seconds; the year is not padded. -/
def plainChars (t : Timestamp) : List Char := Calendar.timeChars 1 ' ' t.floorSeconds

end Timestamp

/-- Why a time cannot be written. -/
inductive TimeFault where
  | notNumber
  /-- The seconds do not fit in a machine word. -/
  | beyondSeconds
  /-- The years since 1900 do not fit in half a machine word. -/
  | beyondYears
  /-- The year does not fit in half a machine word. -/
  | largeYear
  /-- The year does not lie between 1 and 9999. -/
  | oddYear (year : Int)
deriving DecidableEq

def TimeFault.message : TimeFault → String
  | .notNumber => "Invalid value NaN (not a number)"
  | .beyondSeconds => "timestamp out of range for platform time_t"
  | .beyondYears => "[Errno 75] Value too large for defined data type"
  | .largeYear => "signed integer is greater than maximum"
  | .oddYear year => "year " ++ toString year ++ " is out of range"

/-- Whether an integer fits in a signed word of some bits. -/
def fitsBits (bits : Nat) (n : Int) : Bool :=
  Int.bmod n (Nat.pow 2 bits) = n

namespace Timestamp

def isNumber : Timestamp → Bool
  | .whole _ => true
  | .exact x => !x.isNaN

def isFinite : Timestamp → Bool
  | .whole _ => true
  | .exact x => x.isFinite

/-- The year of some seconds of a time, if there is one. -/
def yearOf (t : Timestamp) (seconds : Int) : Except TimeFault Int :=
  let year := (Calendar.dateOfSecond seconds).year
  if !t.isNumber then .error .notNumber
  else if !t.isFinite || !fitsBits 64 seconds then .error .beyondSeconds
  else if !fitsBits 32 (year - 1900) then .error .beyondYears
  else .ok year

/-- Why a time cannot be written with its fraction, if it cannot.  A year that does not
fit in half a machine word is reported as what is left of it there. -/
def isoFault? (t : Timestamp) : Option TimeFault :=
  match t.yearOf t.parts.1 with
  | .error fault => some fault
  | .ok year =>
    if 1 ≤ year ∧ year ≤ 9999 then none else some (.oddYear (Int.bmod year (Nat.pow 2 32)))

/-- Why a time cannot be written in whole seconds, if it cannot. -/
def plainFault? (t : Timestamp) : Option TimeFault :=
  match t.yearOf t.floorSeconds with
  | .error fault => some fault
  | .ok year => if fitsBits 32 year then none else some .largeYear

end Timestamp

/-! ## Records -/

/-- A failure that a record reports. -/
structure Failure where
  /-- The name of the kind of failure. -/
  kind : String
  text : String
  /-- How the program came to the failure. -/
  trace : String
deriving DecidableEq

/-- A log record.  The level name and the message are what lines show. -/
structure Record where
  logger : String
  level : Level
  levelName : String
  message : String
  context : Members
  scope : Members
  time : Timestamp
  file : String
  line : Int
  function : Option String
  /-- Present if the record was asked to report a failure, even if there was none. -/
  failure : Option (Option Failure)

namespace Record

/-- The record of an entry, made at a time. -/
def ofEntry (time : Timestamp) (e : Entry) : Record where
  logger := e.logger
  level := e.level
  levelName := e.level.name
  message := e.message
  context := e.context
  scope := e.scope
  time := time
  file := ""
  line := 0
  function := none
  failure := none

/-- The scope and the record's own context in one; own values win. -/
def fullContext (r : Record) : Members := r.scope.merge r.context

end Record

/-- The trace of a failure, or what stands for it where there is none. -/
def traceOf : Option Failure → String
  | none => "NoneType: None"
  | some f => f.trace

/-! ## Formats -/

/-- Records of this level or above show where they come from. -/
def sourceLevel : Level := Level.error

/-- The member of a JSON line that reports a failure. -/
def failureMember (failure : Option Failure) : Json :=
  .obj
    [("type", .ofString? (failure.map (·.kind))), ("message", .ofString? (failure.map (·.text))),
      ("traceback", .str (traceOf failure))]

/-- A record as a JSON object, stamped with the name and version of a service. -/
def Record.toJson (service version : String) (r : Record) : Json :=
  .obj
    (([("timestamp", .str (String.ofList r.time.isoChars)), ("level", .str r.levelName),
      ("logger", .str r.logger), ("message", .str r.message), ("service", .str service),
      ("version", .str version)] : Members) ++
    (if r.fullContext.isEmpty then [] else [("context", .obj r.fullContext)] : Members) ++
    (match r.failure with
      | none => []
      | some failure => [("exception", failureMember failure)] : Members) ++
    (if r.level < sourceLevel then []
      else
        [("source", .obj
          [("function", .ofString? r.function), ("line", .int r.line),
            ("file", .str r.file)])] : Members))

/-- The color switch of a level name; other names get the one that resets. -/
def colorOf (levelName : String) : String :=
  if levelName = "DEBUG" then "\x1b[36m"
  else if levelName = "INFO" then "\x1b[32m"
  else if levelName = "WARNING" then "\x1b[33m"
  else if levelName = "ERROR" then "\x1b[31m"
  else if levelName = "CRITICAL" then "\x1b[41m"
  else "\x1b[0m"

/-- The switch back to the normal color. -/
def colorReset : String := "\x1b[0m"

/-- A line followed by another text on a line of its own. -/
def withTrace (line : String) (trace : String) : String :=
  if trace = "" then line
  else if line.endsWith "\n" then line ++ trace
  else line ++ "\n" ++ trace

/-- A record as plain text: time, logger, level name and message, and then the
failure. -/
def Record.plainLine (r : Record) : String :=
  let line := String.ofList r.time.plainChars ++ " - " ++ r.logger ++ " - " ++ r.levelName ++
    " - " ++ r.message
  match r.failure with
  | none => line
  | some failure => withTrace line (traceOf failure)

/-- The context as a console shows it. -/
def contextText (context : Members) : String :=
  String.ofList (Json.chars .console (.obj context))

/-- What a console shows behind the message: the context, if there is one and it can be
shown. -/
def Record.contextNote (r : Record) : String :=
  if r.fullContext.isEmpty || !(Json.obj r.fullContext).hasShortIntegers then ""
  else " | Context: " ++ contextText r.fullContext

/-- A record with its level name between color switches and its context behind the
message.  The level name is first, and stays so if the context cannot be shown. -/
def Record.decorate (r : Record) : Record :=
  { r with
    levelName := colorOf r.levelName ++ r.levelName ++ colorReset
    message := r.message ++ r.contextNote }

/-- How records are written. -/
inductive LineFormat where
  /-- One JSON object per line. -/
  | json (service version : String)
  /-- Colored text with the context. -/
  | colored
  /-- Text without the context. -/
  | plain
deriving DecidableEq

/-- The service name on JSON lines if none is given. -/
def defaultService : String := "HR Workflow Engine"

/-- The service version on JSON lines if none is given. -/
def defaultVersion : String := "0.1.0"

/-- Why a record cannot be written. -/
inductive WriteFault where
  | time (fault : TimeFault)
  /-- An integer is too long to be shown. -/
  | longInteger
  /-- There is a surrogate in the line, which a stream cannot encode. -/
  | surrogate
deriving DecidableEq

namespace LineFormat

/-- Why a format cannot write a record, if it cannot. -/
def fault? (format : LineFormat) (r : Record) : Option WriteFault :=
  match format with
  | .json service version =>
    let line := r.toJson service version
    (r.time.isoFault?.map WriteFault.time).or <|
      if !line.hasShortIntegers then some .longInteger
      else if !line.isProper then some .surrogate
      else none
  | .colored =>
    if !(Json.obj r.fullContext).hasShortIntegers then some .longInteger
    else r.time.plainFault?.map WriteFault.time
  | .plain => r.time.plainFault?.map WriteFault.time

/-- The line of a record.  It is what is written if the format can write the record; a
surrogate, which keeps it from being written, is shown by its escape. -/
def line (format : LineFormat) (r : Record) : String :=
  match format with
  | .json service version => (r.toJson service version).logLine
  | .colored => r.decorate.plainLine
  | .plain => r.plainLine

/-- A record as it is after the format was asked for its line. -/
def leave (format : LineFormat) (r : Record) : Record :=
  match format with
  | .json _ _ | .plain => r
  | .colored => r.decorate

/-- The line of a record or the reason why there is none, and the record as it is afterwards. -/
def write (format : LineFormat) (r : Record) : Except WriteFault String × Record :=
  match format.fault? r with
  | some fault => (.error fault, format.leave r)
  | none => (.ok (format.line r), format.leave r)

/-- The lines of one record written several times, up to the first fault. -/
def writeTimes (format : LineFormat) : Nat → Record → Except WriteFault (List String)
  | 0, _ => .ok []
  | n + 1, r => do
    let (line?, next) := format.write r
    return (← line?) :: (← writeTimes format n next)

end LineFormat

end WorkflowEngine.Log
