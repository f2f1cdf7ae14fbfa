import Mathlib.Data.List.Forall2
import WorkflowEngine.Proofs.Log.Reconfiguring

/-!
# Log files do not depend on the console

The console may write its decorations into a record, but it comes last among the outlets, so no
file gets to see them.  Two histories that differ in what their setup calls do with the console
therefore leave the same files, also where calls fail and where their outlets stay for long.
-/

namespace WorkflowEngine.Log

namespace Setup

/-- The same call with the console enabled or not, and colored or not. -/
def withConsole (console debug : Bool) (c : Setup) : Setup :=
  { c with settings := { c.settings with debug }, options := { c.options with console } }

/-- What a call has written to the log file, whatever comes of the console. -/
theorem fileLines_outlets (start : Location) (c : Setup) (r : Record) :
    fileLines (written (c.outlets start) r) =
      if Level.debug ≤ r.level then
        (c.place? start).toList.flatMap fun place =>
          (c.fileFormat.line? r).toList.map (place, ·)
      else [] := by
  rw [written_outlets]
  by_cases hdebug : Level.debug ≤ r.level
  · rw [if_pos hdebug, if_pos hdebug]
    cases c.place? start with
    | none => cases c.consoleFormat.line? r <;> split <;> rfl
    | some place =>
      cases c.fileFormat.line? r <;> cases c.consoleFormat.line? r <;> split <;> rfl
  · rw [if_neg hdebug, if_neg hdebug]
    cases c.consoleFormat.line? r <;> split <;> rfl

theorem fileFormat_ne_colored (c : Setup) : c.fileFormat ≠ .colored := by
  intro h
  rw [fileFormat, jsonFormat] at h
  split at h
  · cases h
  · cases h

end Setup

/-! ## Two histories -/

/-- Two events are the same except for what a setup call does with the console. -/
inductive Event.Alike : Event → Event → Prop where
  | setup (c : Setup) (console debug : Bool) :
    Event.Alike (.setup c) (.setup (c.withConsole console debug))
  | log (r : Record) : Event.Alike (.log r) (.log r)

namespace Outlets

/-- Two states have the same files and will write the same to them. -/
structure FilesAgree (s t : Outlets) : Prop where
  level : s.level = t.level
  disk : s.disk = t.disk
  lines : ∀ r, fileLines (written s.outlets r) = fileLines (written t.outlets r)

section FilesAgree

variable {s t : Outlets}

theorem FilesAgree.refl (s : Outlets) : s.FilesAgree s := ⟨rfl, rfl, fun _ => rfl⟩

theorem FilesAgree.write (h : s.FilesAgree t) (r : Record) :
    (s.write r).FilesAgree (t.write r) := by
  have htakes : s.takes r.level = t.takes r.level := by rw [takes, h.level, takes]
  refine ⟨?_, ?_, fun next => ?_⟩
  · rw [write_eq, level_foldl_put, write_eq, level_foldl_put, h.level]
  · rw [write_eq, disk_foldl_put, write_eq, disk_foldl_put, h.disk, htakes]
    split
    · rw [h.lines]
    · rfl
  · rw [write_eq, outlets_foldl_put, write_eq, outlets_foldl_put, h.lines]

/-- A call comes to the same for the files whatever it does with the console. -/
theorem FilesAgree.setup (h : s.FilesAgree t) (c : Setup) (console debug : Bool) :
    (s.setup c).1.FilesAgree (t.setup (c.withConsole console debug)).1 := by
  cases hlevel : levelOfName c.levelName with
  | error fault =>
    have hother : levelOfName (c.withConsole console debug).levelName = .error fault := hlevel
    rw [setup_of_levelOfName hlevel, setup_of_levelOfName hother]
    exact h
  | ok level =>
    have hother : levelOfName (c.withConsole console debug).levelName = .ok level := hlevel
    cases hopen : openFile? s.disk c.options.file with
    | mk disk fault? =>
      have hopen' : openFile? t.disk (c.withConsole console debug).options.file =
          (disk, fault?) := by
        rw [← h.disk]
        exact hopen
      cases fault? with
      | some fault =>
        rw [setup_of_fault hlevel hopen, setup_of_fault hother hopen']
        exact ⟨rfl, rfl, fun _ => rfl⟩
      | none =>
        rw [setup_of_opened hlevel hopen, setup_of_opened hother hopen']
        have hinstalled : FilesAgree ⟨c.level, c.outlets s.disk.start, disk, s.console⟩
            ⟨c.level, (c.withConsole console debug).outlets t.disk.start, disk, t.console⟩ := by
          refine ⟨rfl, rfl, fun r => ?_⟩
          rw [Setup.fileLines_outlets, Setup.fileLines_outlets, h.disk]
          rfl
        exact hinstalled.write c.announced

theorem FilesAgree.perform {e e' : Event} (h : s.FilesAgree t) (halike : e.Alike e') :
    (s.perform e).FilesAgree (t.perform e') := by
  cases halike with
  | setup c console debug => exact h.setup c console debug
  | log r => exact h.write r

theorem FilesAgree.after {events events' : List Event} (h : s.FilesAgree t)
    (halike : List.Forall₂ Event.Alike events events') :
    (s.after events).FilesAgree (t.after events') := by
  induction halike generalizing s t with
  | nil => exact h
  | cons he _ ih => exact ih (h.perform he)

end FilesAgree

end Outlets

/-! ## Undecorated lines -/

/-- The record that an event issues. -/
def Event.record : Event → Record
  | .setup c => c.announced
  | .log r => r

/-- A line that a record as it was logged comes to in a format other than the colored one. -/
def Undecorated (r : Record) (line : String) : Prop :=
  ∃ format, format ≠ LineFormat.colored ∧ format.CanWrite r ∧ line = format.line r

namespace Outlets

/-- The outlets bring records to files as they were logged. -/
def KeepsRecords (s : Outlets) : Prop :=
  ∀ r place, ∀ line ∈ linesFor (.file place) (written s.outlets r), Undecorated r line

theorem keepsRecords_of_outlets {s : Outlets} {start : Location} {c : Setup}
    (h : s.outlets = c.outlets start) : s.KeepsRecords := by
  intro r place line hline
  rw [h, Setup.linesFor_file] at hline
  split at hline
  · obtain ⟨hwrites, hwritten⟩ := LineFormat.line?_eq_some_iff.mp (Option.mem_toList.mp hline)
    exact ⟨c.fileFormat, c.fileFormat_ne_colored, hwrites, hwritten.symm⟩
  · cases hline

theorem keepsRecords_of_outlets_nil {s : Outlets} (h : s.outlets = []) : s.KeepsRecords := by
  intro r place line hline
  rw [h] at hline
  cases hline

theorem keepsRecords_write {s : Outlets} (h : s.KeepsRecords) (r : Record) :
    (s.write r).KeepsRecords := by
  rw [KeepsRecords, write_eq, outlets_foldl_put]
  exact h

/-- A record leaves the lines in files as they are and brings no others than its own. -/
theorem mem_lines_write {s : Outlets} (h : s.KeepsRecords) {r : Record} {place : Location}
    {line : String} (hline : line ∈ (s.write r).disk.lines place) :
    line ∈ s.disk.lines place ∨ Undecorated r line := by
  rw [Disk.lines, write_eq, file?_foldl_put] at hline
  cases hfile : s.disk.file? place with
  | none =>
    rw [hfile] at hline
    cases hline
  | some old =>
    rw [hfile] at hline
    rw [Disk.lines, hfile]
    rcases List.mem_append.mp hline with hold | hnew
    · exact .inl hold
    · split at hnew
      · exact .inr (h r place line hnew)
      · cases hnew

theorem lines_openFile? (d : Disk) (file : Option String) (place : Location) :
    (openFile? d file).1.lines place = d.lines place := by
  rw [Disk.lines, file?_openFile?, Disk.lines]
  cases d.file? place with
  | none => split <;> rfl
  | some lines => rfl

section Perform

variable {s : Outlets} {place : Location} {line : String}

theorem keepsRecords_perform (h : s.KeepsRecords) (e : Event) : (s.perform e).KeepsRecords := by
  cases e with
  | log r => exact keepsRecords_write h r
  | setup c =>
    rw [perform]
    obtain ⟨fault, hsetup⟩ | ⟨disk, fault, -, hsetup⟩ | ⟨disk, -, hsetup⟩ := setup_cases s c
    · rw [hsetup]
      exact h
    · rw [hsetup]
      exact keepsRecords_of_outlets_nil rfl
    · rw [hsetup]
      exact keepsRecords_write (keepsRecords_of_outlets rfl) c.announced

theorem mem_lines_perform (h : s.KeepsRecords) {e : Event}
    (hline : line ∈ (s.perform e).disk.lines place) :
    line ∈ s.disk.lines place ∨ Undecorated e.record line := by
  cases e with
  | log r => exact mem_lines_write h hline
  | setup c =>
    have hopened := lines_openFile? s.disk c.options.file place
    rw [perform] at hline
    obtain ⟨fault, hsetup⟩ | ⟨disk, fault, hopen, hsetup⟩ | ⟨disk, hopen, hsetup⟩ :=
      setup_cases s c
    · rw [hsetup] at hline
      exact .inl hline
    · rw [hsetup] at hline
      rw [hopen] at hopened
      rw [← hopened]
      exact .inl hline
    · rw [hsetup] at hline
      rw [hopen] at hopened
      rw [← hopened]
      exact mem_lines_write (keepsRecords_of_outlets rfl) hline

theorem mem_lines_after (h : s.KeepsRecords) {events : List Event}
    (hline : line ∈ (s.after events).disk.lines place) :
    line ∈ s.disk.lines place ∨ ∃ e ∈ events, Undecorated e.record line := by
  induction events generalizing s with
  | nil => exact .inl hline
  | cons e rest ih =>
    rcases ih (keepsRecords_perform h e) hline with hnext | ⟨e', he', hplain⟩
    · rcases mem_lines_perform h hnext with hold | hplain
      · exact .inl hold
      · exact .inr ⟨e, List.mem_cons_self, hplain⟩
    · exact .inr ⟨e', List.mem_cons_of_mem e he', hplain⟩

end Perform

/-- The log files are the same whatever the setup calls do with the console, and apart from what
they held before, all their lines are those of undecorated records. -/
theorem disk_after_eq_of_alike {s : Outlets} {events events' : List Event}
    (hfresh : s.outlets = []) (halike : List.Forall₂ Event.Alike events events') :
    (s.after events).disk = (s.after events').disk ∧
      ∀ place, ∀ line ∈ (s.after events).disk.lines place,
        line ∈ s.disk.lines place ∨ ∃ e ∈ events, Undecorated e.record line :=
  ⟨((FilesAgree.refl s).after halike).disk,
    fun _ _ hline => mem_lines_after (keepsRecords_of_outlets_nil hfresh) hline⟩

/-- Two calls that name the same file, with a message after each. -/
def decoratedIf (console debug : Bool) : List Event :=
  [.setup ((plainCall "info" "a.log").withConsole console debug),
    .log (.ofEntry (.whole 1) ⟨rootLogger, Level.error, "first", [("user", .str "u")], []⟩),
    .setup ((plainCall "debug" "a.log").withConsole (!console) debug),
    .log (.ofEntry (.whole 1) ⟨rootLogger, Level.error, "second", [("user", .str "u")], []⟩)]

theorem disk_after_eq_of_alike_decorated :
    (initial ["srv"]).outlets = [] ∧
      List.Forall₂ Event.Alike (decoratedIf true true) (decoratedIf false false) ∧
      ((initial ["srv"]).after (decoratedIf true true)).console ≠
        ((initial ["srv"]).after (decoratedIf false false)).console ∧
      ((initial ["srv"]).after (decoratedIf true true)).disk.file? ["srv", "a.log"] = some
        ["1970-01-01 00:00:00 - root - INFO - Logging initialized - Level: info, File: a.log",
          "1970-01-01 00:00:01 - root - ERROR - first",
          "1970-01-01 00:00:00 - root - INFO - Logging initialized - Level: debug, File: a.log",
          "1970-01-01 00:00:01 - root - ERROR - second"] := by
  have halike : List.Forall₂ Event.Alike (decoratedIf true true) (decoratedIf false false) :=
    .cons (.setup _ false false) <| .cons (.log _) <| .cons (.setup _ true false) <|
      .cons (.log _) .nil
  have hfresh : (initial ["srv"]).outlets = [] := rfl
  obtain ⟨hdisk, -⟩ := disk_after_eq_of_alike hfresh halike
  refine ⟨hfresh, halike, by decide +kernel, ?_⟩
  rw [hdisk]
  decide +kernel

end Outlets

end WorkflowEngine.Log
