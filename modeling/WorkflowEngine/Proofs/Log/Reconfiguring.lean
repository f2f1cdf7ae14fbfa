import WorkflowEngine.Proofs.Log.Writing

/-!
# Logging set up again and again

A history is a list of setup calls and of records that are logged between them.  What a record
comes to depends on the setup call that stands when it is logged, and on nothing that came before:
`issued` pairs the records with those calls, and the lines on the console and in each file are read
off these pairs.  Two spellings of a path name one file, because a file is known by its place.
-/

namespace WorkflowEngine.Log

/-! ## Setup calls -/

/-- A setup call: its arguments, the settings and the time it finds. -/
structure Setup where
  settings : Settings
  options : Options
  time : Timestamp

namespace Setup

def levelName (c : Setup) : String := c.options.levelName.getD c.settings.logLevel

def service (c : Setup) : String := c.options.service.getD c.settings.projectName

/-- The level that is named, or `INFO` if none has that name. -/
def level (c : Setup) : Level :=
  (namedLevels.lookup (Text.capitals c.levelName)).getD Level.info

/-- Where the log file lies, if there is one. -/
def place? (start : Location) (c : Setup) : Option Location :=
  c.options.file.map fun path => (Path.ofText path).location start

def jsonFormat (c : Setup) : LineFormat := .json c.service c.settings.version

def fileFormat (c : Setup) : LineFormat := if c.options.jsonFile then c.jsonFormat else .plain

def consoleFormat (c : Setup) : LineFormat := if c.settings.debug then .colored else c.jsonFormat

/-- The outlets that the call asks for: the log file, if there is one, and then the console, if
it is enabled. -/
def outlets (start : Location) (c : Setup) : List Outlet :=
  (c.place? start).toList.map (fun place => ⟨.file place, Level.debug, c.fileFormat⟩) ++
    if c.options.console then [⟨.console, c.level, c.consoleFormat⟩] else []

/-- The record that announces the call. -/
def announced (c : Setup) : Record :=
  .ofEntry c.time (Outlets.announcement c.levelName c.service c.options.file)

/-- The line that a file gets of a record logged under the call, if it gets one. -/
def fileLine? (start place : Location) (c : Setup) (r : Record) : Option String :=
  if c.place? start = some place ∧ 0 < r.level ∧ c.level ≤ r.level ∧ Level.debug ≤ r.level then
    c.fileFormat.line? r
  else none

/-! ### What a call does -/

theorem level_eq {c : Setup} {level : Level} (h : levelOfName c.levelName = .ok level) :
    c.level = level := by
  rw [levelOfName] at h
  split at h
  · cases h
  · exact Except.ok.inj h

/-- What is written to a file does not change the record. -/
theorem leave_fileFormat (c : Setup) (r : Record) : c.fileFormat.leave r = r := by
  rw [fileFormat]
  split
  · rfl
  · rfl

theorem outletsFor_eq (start : Location) (c : Setup) :
    Outlets.outletsFor c.settings c.options c.level c.service (c.place? start) =
      c.outlets start := by
  rw [outlets]
  cases c.place? start with
  | none => rfl
  | some place => rfl

/-- A record goes to the file as it was logged, and from there as it was to the console. -/
theorem written_outlets (start : Location) (c : Setup) (r : Record) :
    written (c.outlets start) r =
      (if Level.debug ≤ r.level then
        (c.place? start).toList.flatMap fun place =>
          (c.fileFormat.line? r).toList.map (.file place, ·)
      else []) ++
      if c.options.console ∧ c.level ≤ r.level then
        (c.consoleFormat.line? r).toList.map (.console, ·)
      else [] := by
  have hconsole : written
      (if c.options.console then [⟨.console, c.level, c.consoleFormat⟩] else []) r =
        if c.options.console ∧ c.level ≤ r.level then
          (c.consoleFormat.line? r).toList.map (.console, ·)
        else [] := by
    by_cases henabled : c.options.console = true
    · by_cases hlevel : r.level < c.level
      · simp [written, henabled, hlevel, Int.not_le.mpr hlevel]
      · simp [written, henabled, hlevel, Int.not_lt.mp hlevel]
    · simp [written, henabled]
  rw [outlets]
  cases c.place? start with
  | none => simpa using hconsole
  | some place =>
    by_cases hdebug : r.level < Level.debug
    · simpa [written, hdebug, Int.not_le.mpr hdebug] using hconsole
    · simpa [written, hdebug, Int.not_lt.mp hdebug, leave_fileFormat] using hconsole

/-- The log file gets the record once if the level is high enough, and no other file does. -/
theorem linesFor_file (start place : Location) (c : Setup) (r : Record) :
    linesFor (.file place) (written (c.outlets start) r) =
      if c.place? start = some place ∧ Level.debug ≤ r.level then (c.fileFormat.line? r).toList
      else [] := by
  have hconsole : linesFor (.file place)
      (if c.options.console ∧ c.level ≤ r.level then
        (c.consoleFormat.line? r).toList.map (.console, ·) else []) = [] := by
    split
    · simp [linesFor_map]
    · rfl
  rw [written_outlets, linesFor_append, hconsole, List.append_nil]
  by_cases hdebug : Level.debug ≤ r.level
  · rw [if_pos hdebug]
    cases c.place? start with
    | none => simp [linesFor]
    | some other => simp [linesFor_map, hdebug]
  · simp [hdebug, linesFor]

end Setup

namespace Outlets

/-- Set logging up. -/
def setup (s : Outlets) (c : Setup) : Outlets × Option ConfigureFault :=
  s.configure c.settings c.options c.time

section Setup

variable {s : Outlets} {c : Setup} {level : Level} {disk : Disk}

/-- A name that belongs to no level changes nothing. -/
theorem setup_of_levelOfName {fault : ConfigureFault}
    (h : levelOfName c.levelName = .error fault) : s.setup c = (s, some fault) := by
  rw [setup, configure, ← Setup.levelName, h]

/-- A file that cannot be opened leaves no outlets. -/
theorem setup_of_fault {fault : DiskFault} (hlevel : levelOfName c.levelName = .ok level)
    (hopen : openFile? s.disk c.options.file = (disk, some fault)) :
    s.setup c = (⟨c.level, [], disk, s.console⟩, some (.disk fault)) := by
  rw [setup, configure, ← Setup.levelName, hlevel, hopen, Setup.level_eq hlevel]

theorem start_openFile? (d : Disk) (file : Option String) :
    (openFile? d file).1.start = d.start := by
  cases file with
  | none => rfl
  | some path => exact d.start_openFile (.ofText path)

/-- Opening a log file keeps every file with its lines; unless it fails, the log file is there. -/
theorem file?_openFile? (d : Disk) (file : Option String) (other : Location) :
    (openFile? d file).1.file? other = (d.file? other).or
      (if (openFile? d file).2 = none ∧
          (file.map fun path => (Path.ofText path).location d.start) = some other then some []
      else none) := by
  cases file with
  | none => simp [openFile?]
  | some path =>
    rw [openFile?, Disk.file?_openFile, Option.map_some]
    simp only [Option.some.injEq, eq_comm]

/-- Otherwise the outlets are those that the call asks for, and its record is written to them. -/
theorem setup_of_opened (hlevel : levelOfName c.levelName = .ok level)
    (hopen : openFile? s.disk c.options.file = (disk, none)) :
    s.setup c =
      ((Outlets.mk c.level (c.outlets s.disk.start) disk s.console).write c.announced, none) := by
  have hstart : disk.start = s.disk.start := by
    rw [← start_openFile? s.disk c.options.file, hopen]
  rw [setup, configure, ← Setup.levelName, ← Setup.service, hlevel, hopen,
    ← Setup.level_eq hlevel, ← Setup.outletsFor_eq, Setup.place?, ← hstart]
  rfl

/-- All that a setup call can come to. -/
theorem setup_cases (s : Outlets) (c : Setup) :
    (∃ fault, s.setup c = (s, some fault)) ∨
      (∃ disk fault, openFile? s.disk c.options.file = (disk, some fault) ∧
        s.setup c = (⟨c.level, [], disk, s.console⟩, some (.disk fault))) ∨
      ∃ disk, openFile? s.disk c.options.file = (disk, none) ∧
        s.setup c =
          ((Outlets.mk c.level (c.outlets s.disk.start) disk s.console).write c.announced,
            none) := by
  cases hlevel : levelOfName c.levelName with
  | error fault => exact .inl ⟨fault, setup_of_levelOfName hlevel⟩
  | ok level =>
    cases hopen : openFile? s.disk c.options.file with
    | mk disk fault? =>
      cases fault? with
      | some fault => exact .inr (.inl ⟨disk, fault, rfl, setup_of_fault hlevel hopen⟩)
      | none => exact .inr (.inr ⟨disk, rfl, setup_of_opened hlevel hopen⟩)

end Setup

end Outlets

/-! ## Histories -/

/-- What happens to logging. -/
inductive Event where
  | setup (c : Setup)
  | log (r : Record)

/-- The place of the log file that an event names. -/
def Event.place? (start : Location) : Event → Option Location
  | .setup c => c.place? start
  | .log _ => none

section IssuedLines

variable (line? : Setup → Record → Option String) (c? : Option Setup) (c : Setup) (r : Record)
  (rest : List Event)

end IssuedLines

namespace Outlets

def perform (s : Outlets) : Event → Outlets
  | .setup c => (s.setup c).1
  | .log r => s.write r

/-- The state after a history. -/
def after (s : Outlets) (events : List Event) : Outlets := events.foldl perform s

theorem after_append (s : Outlets) (before rest : List Event) :
    s.after (before ++ rest) = (s.after before).after rest :=
  List.foldl_append

/-- The state is the one that a setup call asks for. -/
structure Follows (s : Outlets) (c : Setup) : Prop where
  level : s.level = c.level
  outlets : s.outlets = c.outlets s.disk.start
  file : ∀ place, c.place? s.disk.start = some place → (s.disk.file? place).isSome = true

/-- The state is the one that the standing call asks for; where none stands there are no
outlets. -/
def Stands (s : Outlets) : Option Setup → Prop
  | none => s.outlets = []
  | some c => s.Follows c

section Write

variable {s : Outlets} {c : Setup}

theorem start_write (s : Outlets) (r : Record) : (s.write r).disk.start = s.disk.start := by
  rw [write_eq, start_foldl_put]

/-- Without outlets nothing is written. -/
theorem write_of_outlets_nil (h : s.outlets = []) (r : Record) : s.write r = s := by
  rw [write_eq, h]
  split
  · rfl
  · rfl

theorem takes_eq_true_iff (h : s.Follows c) (level : Level) :
    s.takes level = true ↔ 0 < level ∧ c.level ≤ level := by
  rw [takes, h.level, Bool.and_eq_true, decide_eq_true_iff, decide_eq_true_iff]

/-- A file gets its line of the record, if it gets one, and nothing else. -/
theorem Follows.file?_write (h : s.Follows c) (r : Record) (place : Location) :
    (s.write r).disk.file? place =
      (s.disk.file? place).map (· ++ (c.fileLine? s.disk.start place r).toList) := by
  rw [write_eq, file?_foldl_put, Setup.fileLine?]
  congr 2
  funext lines
  congr 1
  by_cases htakes : s.takes r.level = true
  · obtain ⟨hpos, hlevel⟩ := (takes_eq_true_iff h _).mp htakes
    rw [if_pos htakes, h.outlets, Setup.linesFor_file]
    simp only [hpos, hlevel, true_and]
    split <;> rfl
  · have hrange := mt (takes_eq_true_iff h r.level).mpr htakes
    rw [if_neg htakes, if_neg fun hline => hrange ⟨hline.2.1, hline.2.2.1⟩]
    rfl

theorem Follows.write (h : s.Follows c) (r : Record) : (s.write r).Follows c where
  level := by rw [write_eq, level_foldl_put, h.level]
  outlets := by rw [start_write, write_eq, outlets_foldl_put, h.outlets]
  file place hplace := by
    rw [start_write] at hplace
    rw [h.file?_write, Option.isSome_map]
    exact h.file place hplace

end Write

section Runs

variable {s : Outlets} {c : Setup} {c? : Option Setup} {events : List Event}

theorem Stands.write (h : s.Stands c?) (r : Record) : (s.write r).Stands c? := by
  cases c? with
  | none =>
    rw [write_of_outlets_nil h]
    exact h
  | some c => exact Follows.write h r

end Runs

/-- A call with a plain log file and a console, at the start of 1970. -/
def plainCall (levelName file : String) : Setup where
  settings := Settings.defaults
  options := ⟨some levelName, some file, none, false, true⟩
  time := .whole 0

end Outlets

end WorkflowEngine.Log
