import WorkflowEngine.Json.Display
import WorkflowEngine.Text.Blank

/-!
# Log files

The files that log lines are written to and the folders they lie in.  A file is known
by its place, so that every spelling of its path leads to it.  A file is opened at its
end; the folders above it are made first, from the outermost in, and those that were made
stay if opening fails.
-/

namespace WorkflowEngine.Log

/-! ## Paths -/

/-- A place: the steps that lead there from the root, without detours. -/
abbrev Location := List String

/-- Take one step from a place that is given in reverse; double points take back the step
before, and at the root there is none. -/
def followStep (done : List String) (step : String) : List String :=
  if step = ".." then done.tail else step :: done

/-- A path as it is spelled: the slashes at its start and its steps. -/
structure Path where
  lead : String
  steps : List String

namespace Path

/-- The path that a text spells.  Two slashes at the start are kept as they are and more
count as one; blank steps and single points lead nowhere. -/
def ofText (text : String) : Path where
  lead := match text.toList with
    | '/' :: '/' :: '/' :: _ => "/"
    | '/' :: '/' :: _ => "//"
    | '/' :: _ => "/"
    | _ => ""
  steps := ((Text.splitAt '/' text.toList).map String.ofList).filter fun s => s != "" && s != "."

def text (p : Path) : String := p.lead ++ Text.join "/" p.steps

/-- The path without its last step. -/
def parent (p : Path) : Path := { p with steps := p.steps.dropLast }

/-- The first steps of a path, one more each time. -/
def beginnings (p : Path) : List Path :=
  (List.range p.steps.length).map fun i => { p with steps := p.steps.take (i + 1) }

/-- Where a path leads.  Without a slash at its start it begins at a place of its own. -/
def location (start : Location) (p : Path) : Location :=
  (p.steps.foldl followStep (if p.lead = "" then start.reverse else [])).reverse

/-- The path without detours, from the root. -/
def direct (start : Location) (p : Path) : Path :=
  ⟨if p.lead = "" then "/" else p.lead, p.location start⟩

end Path

/-! ## Faults -/

/-- Why a file cannot be opened. -/
inductive DiskFault where
  /-- A folder is to be made where a file is. -/
  | exists (path : String)
  /-- A path leads through a file. -/
  | notFolder (path : String)
  /-- A file is to be opened where a folder is. -/
  | isFolder (path : String)
  /-- A path or one of its steps is too long. -/
  | tooLong (path : String)
  /-- A path holds the null character. -/
  | holdsNull
deriving DecidableEq

/-- A numbered fault of a path in words. -/
def numberedFault (number : Nat) (text path : String) : String :=
  "[Errno " ++ toString number ++ "] " ++ text ++ ": " ++ String.ofList (Json.displayQuoted path)

def DiskFault.message : DiskFault → String
  | .exists path => numberedFault 17 "File exists" path
  | .notFolder path => numberedFault 20 "Not a directory" path
  | .isFolder path => numberedFault 21 "Is a directory" path
  | .tooLong path => numberedFault 36 "File name too long" path
  | .holdsNull => "embedded null byte"

/-! ## Files and folders -/

/-- Files with their lines, in the order in which they were opened, and folders. -/
structure Disk where
  /-- Where paths begin that have no slash at their start. -/
  start : Location
  files : List (Location × List String)
  /-- The folders other than those that the start lies in. -/
  folders : List Location

/-- What is found at a path. -/
inductive Place where
  | file
  | folder
  | nothing
deriving DecidableEq

namespace Disk

/-- No files, and no folders but those that the start lies in. -/
def empty (start : Location) : Disk := ⟨start, [], []⟩

/-- The lines of a file, if there is one. -/
def file? (d : Disk) (place : Location) : Option (List String) := d.files.lookup place

/-- What is found where a path leads. -/
def placeAt (d : Disk) (p : Path) : Place :=
  let place := p.location d.start
  if place.isPrefixOf d.start || d.folders.contains place then .folder
  else if (d.file? place).isSome then .file
  else .nothing

/-- The most bytes that a step of a path may have. -/
def stepLimit : Nat := 255

/-- The most bytes that a path may have. -/
def pathLimit : Nat := 4095

/-- Make the folders along a path.  The whole path is tried first, and only if a folder is
missing are the outer ones made one after the other.  The answer is the disk as it is
afterwards and the fault, if there was one. -/
def makeFolders (d : Disk) (p : Path) : Disk × Option DiskFault :=
  let blocks := fun (q : Path) =>
    stepLimit < (q.steps.getLastD "").utf8ByteSize || d.placeAt q = .file
  let clear := p.beginnings.takeWhile (!blocks ·)
  let missing := clear.filter fun q => d.placeAt q = .nothing
  if p.steps.any (·.toList.contains '\x00') then (d, some .holdsNull)
  else if pathLimit < p.text.utf8ByteSize then (d, some (.tooLong p.text))
  else
    let made := { d with folders := d.folders ++ missing.map (·.location d.start) }
    match p.beginnings.drop clear.length with
    | [] => (made, none)
    | blocked :: _ =>
      let tried := if missing.isEmpty then p else blocked
      (made, some <|
        if stepLimit < (blocked.steps.getLastD "").utf8ByteSize then .tooLong tried.text
        else if tried.steps = blocked.steps then .exists tried.text
        else .notFolder tried.text)

/-- Make sure a file exists, and the folders above it.  The answer is the disk as it is
afterwards and the fault, if there was one. -/
def openFile (d : Disk) (p : Path) : Disk × Option DiskFault :=
  match d.makeFolders p.parent with
  | (d, some fault) => (d, some fault)
  | (d, none) =>
    let name := (p.direct d.start).text
    if (p.steps.getLastD "").toList.contains '\x00' then (d, some .holdsNull)
    else if stepLimit < (p.steps.getLastD "").utf8ByteSize || pathLimit < name.utf8ByteSize then
      (d, some (.tooLong name))
    else match d.placeAt p with
      | .folder => (d, some (.isFolder name))
      | .file => (d, none)
      | .nothing => ({ d with files := d.files ++ [(p.location d.start, [])] }, none)

/-- Append a line to a file. -/
def append (d : Disk) (place : Location) (line : String) : Disk :=
  { d with
    files := d.files.map fun (p, lines) => if p = place then (p, lines ++ [line]) else (p, lines) }

end Disk

end WorkflowEngine.Log
