import WorkflowEngine.Log.Disk
import WorkflowEngine.Log.Record
import WorkflowEngine.Settings
import WorkflowEngine.Text.Capital

/-!
# Outlets

Where log lines go.  `configure` replaces all outlets: the log file comes first, if
one was given, and then the console, if it is enabled.  Files keep what was written
to them, and a file that is named again grows at its end.  A configuration whose file
cannot be opened leaves no outlets.  An outlet drops a record that its format cannot
write.
-/

namespace WorkflowEngine.Log

/-- What lines are written to. -/
inductive Target where
  | file (place : Location)
  | console
deriving DecidableEq

/-- A target that takes records from some level on. -/
structure Outlet where
  target : Target
  level : Level
  format : LineFormat
deriving DecidableEq

/-- The state of logging and everything written so far. -/
structure Outlets where
  /-- Records below this level are dropped. -/
  level : Level
  outlets : List Outlet
  disk : Disk
  console : List String

/-- The arguments of a configuration; what is absent is taken from the settings. -/
structure Options where
  levelName : Option String
  file : Option String
  service : Option String
  jsonFile : Bool
  console : Bool

namespace Options

/-- The options if none are given. -/
def defaults : Options := ⟨none, none, none, true, true⟩

end Options

/-! ## Level names -/

/-- The levels that have names of their own. -/
def namedLevels : List (String × Level) :=
  [("CRITICAL", Level.critical), ("FATAL", Level.critical), ("ERROR", Level.error),
    ("WARNING", Level.warning), ("WARN", Level.warning), ("INFO", Level.info),
    ("DEBUG", Level.debug), ("NOTSET", 0)]

/-- Why a configuration fails. -/
inductive ConfigureFault where
  /-- The level name belongs to a text, which names no level. -/
  | notLevelName (shown : String)
  /-- The level name belongs to something else. -/
  | notLevel (shown : String)
  | disk (fault : DiskFault)
deriving DecidableEq

def ConfigureFault.message : ConfigureFault → String
  | .notLevelName shown => "Unknown level: " ++ shown
  | .notLevel shown => "Level not an integer or a valid string: " ++ shown
  | .disk fault => fault.message

/-- The names that belong to no level: the one of the basic line format, and the one of
the styles of line formats. -/
def misleadingNames : List (String × ConfigureFault) :=
  [("BASIC_FORMAT", .notLevelName "'%(levelname)s:%(name)s:%(message)s'"),
    ("_STYLES", .notLevel
      ("\x7b'%': (<class 'logging.PercentStyle'>, '%(levelname)s:%(name)s:%(message)s'), " ++
        "'\x7b': (<class 'logging.StrFormatStyle'>, " ++
        "'\x7blevelname\x7d:\x7bname\x7d:\x7bmessage\x7d'), " ++
        "'$': (<class 'logging.StringTemplateStyle'>, " ++
        "'$\x7blevelname\x7d:$\x7bname\x7d:$\x7bmessage\x7d')\x7d"))]

/-- The level with a name in any case; names that belong to nothing stand for `INFO`. -/
def levelOfName (name : String) : Except ConfigureFault Level :=
  match misleadingNames.lookup (Text.capitals name) with
  | some fault => .error fault
  | none => .ok ((namedLevels.lookup (Text.capitals name)).getD Level.info)

/-! ## Writing -/

namespace Outlets

/-- Nothing configured and nothing written. -/
def initial (start : Location) : Outlets := ⟨Level.warning, [], .empty start, []⟩

/-- Write a record to one outlet, and answer with the record as it is afterwards. -/
def writeTo (state : Outlets × Record) (o : Outlet) : Outlets × Record :=
  let (s, r) := state
  if r.level < o.level then (s, r)
  else
    match o.format.write r, o.target with
    | (.error _, next), _ => (s, next)
    | (.ok line, next), .console => ({ s with console := s.console ++ [line] }, next)
    | (.ok line, next), .file place => ({ s with disk := s.disk.append place line }, next)

/-- Whether a record of a level is written at all. -/
def takes (s : Outlets) (level : Level) : Bool := 0 < level && s.level ≤ level

/-- Write a record to the outlets in order. -/
def write (s : Outlets) (r : Record) : Outlets :=
  if s.takes r.level then (s.outlets.foldl writeTo (s, r)).1 else s

/-- The name of the logger above all others. -/
def rootLogger : String := "root"

/-- Log an entry at a time; the empty logger name stands for the root. -/
def log (s : Outlets) (time : Timestamp) (e : Entry) : Outlets :=
  s.write (.ofEntry time { e with logger := if e.logger = "" then rootLogger else e.logger })

/-- The outlets that a configuration installs: one for the file, if there is one, and one
for the console. -/
def outletsFor (settings : Settings) (options : Options) (level : Level) (service : String)
    (file : Option Location) : List Outlet :=
  let json := LineFormat.json service settings.version
  let file := match file with
    | none => []
    | some place => [⟨.file place, Level.debug, if options.jsonFile then json else .plain⟩]
  let console :=
    if options.console then [⟨.console, level, if settings.debug then .colored else json⟩] else []
  file ++ console

/-- The entry that announces a configuration. -/
def announcement (levelName service : String) (file : Option String) : Entry where
  logger := rootLogger
  level := Level.info
  message := "Logging initialized - Level: " ++ levelName ++ ", File: " ++ file.getD "None"
  context :=
    [("log_level", .str levelName), ("log_file", .ofString? file), ("service", .str service)]
  scope := []

/-- Open the log file, if one is given. -/
def openFile? (d : Disk) : Option String → Disk × Option DiskFault
  | none => (d, none)
  | some path => d.openFile (.ofText path)

/-- Replace all outlets and announce it.  The answer is the state afterwards and the fault,
if there was one: a name of no level changes nothing, and where the file cannot be opened the
level is set and the outlets are gone. -/
def configure (s : Outlets) (settings : Settings) (options : Options) (time : Timestamp) :
    Outlets × Option ConfigureFault :=
  let levelName := options.levelName.getD settings.logLevel
  let service := options.service.getD settings.projectName
  match levelOfName levelName with
  | .error fault => (s, some fault)
  | .ok level =>
    match openFile? s.disk options.file with
    | (disk, some fault) => (⟨level, [], disk, s.console⟩, some (.disk fault))
    | (disk, none) =>
      let file := options.file.map fun path => (Path.ofText path).location disk.start
      let installed : Outlets :=
        ⟨level, outletsFor settings options level service file, disk, s.console⟩
      (installed.log time (announcement levelName service options.file), none)

end Outlets

end WorkflowEngine.Log
