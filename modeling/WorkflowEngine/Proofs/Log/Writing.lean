import WorkflowEngine.Log.Outlets

/-!
# What is written where

A record goes through all outlets, and each outlet may change it for the next one, or drop it
because its format cannot write it.  What comes of it is nevertheless a list of lines, each for a
target, and the state afterwards depends on that list alone: a target gets its own lines at its
end and no others.
-/

namespace WorkflowEngine.Log

/-! ## Files -/

namespace Disk

/-- The lines of a file; there are none where there is no file. -/
def lines (d : Disk) (place : Location) : List String := (d.file? place).getD []

variable {d : Disk} {place : Location}

theorem file?_append (d : Disk) (place : Location) (line : String) (other : Location) :
    (d.append place line).file? other =
      if other = place then (d.file? other).map (· ++ [line]) else d.file? other := by
  rw [file?, append, file?]
  induction d.files with
  | nil => simp
  | cons f files ih =>
    obtain ⟨p, lines⟩ := f
    by_cases hp : p = place
    · by_cases hother : other = place
      · simp [hp, hother]
      · have hne : (other == place) = false := beq_eq_false_iff_ne.mpr hother
        simpa [hp, hother, List.lookup_cons, hne] using ih
    · by_cases hother : other = p
      · simp [hp, hother]
      · have hne : (other == p) = false := beq_eq_false_iff_ne.mpr hother
        simpa [hp, List.lookup_cons, hne] using ih

/-- Making folders touches no file. -/
theorem makeFolders_eq (d : Disk) (p : Path) :
    ∃ folders, (d.makeFolders p).1 = { d with folders } := by
  rw [makeFolders]
  dsimp only
  split
  · exact ⟨d.folders, rfl⟩
  · split
    · exact ⟨d.folders, rfl⟩
    · split
      · exact ⟨_, rfl⟩
      · exact ⟨_, rfl⟩

theorem isSome_file?_of_placeAt {p : Path} (h : d.placeAt p = .file) :
    (d.file? (p.location d.start)).isSome = true := by
  rw [placeAt] at h
  split at h
  · cases h
  · split at h
    · next hfile => exact hfile
    · cases h

theorem file?_eq_none_of_placeAt {p : Path} (h : d.placeAt p = .nothing) :
    d.file? (p.location d.start) = none := by
  rw [placeAt] at h
  split at h
  · cases h
  · split at h
    · cases h
    · next hfile => exact Option.not_isSome_iff_eq_none.mp hfile

/-- Opening a file fails without touching a file, or finds it, or makes it. -/
theorem openFile_cases (d : Disk) (p : Path) : ∃ folders,
    (∃ fault, d.openFile p = ({ d with folders }, some fault)) ∨
      ((d.file? (p.location d.start)).isSome = true ∧
        d.openFile p = ({ d with folders }, none)) ∨
      (d.file? (p.location d.start) = none ∧
        d.openFile p =
          ({ d with folders, files := d.files ++ [(p.location d.start, [])] }, none)) := by
  obtain ⟨folders, hfolders⟩ := makeFolders_eq d p.parent
  refine ⟨folders, ?_⟩
  rw [openFile]
  cases hmade : d.makeFolders p.parent with
  | mk made fault? =>
    rw [hmade] at hfolders
    dsimp only at hfolders
    subst hfolders
    cases fault? with
    | some fault => exact .inl ⟨fault, rfl⟩
    | none =>
      dsimp only
      split
      · exact .inl ⟨_, rfl⟩
      · split
        · exact .inl ⟨_, rfl⟩
        · split
          · exact .inl ⟨_, rfl⟩
          · next hplace =>
            have hfile := isSome_file?_of_placeAt hplace
            exact .inr (.inl ⟨hfile, rfl⟩)
          · next hplace =>
            have hfile := file?_eq_none_of_placeAt hplace
            exact .inr (.inr ⟨hfile, rfl⟩)

theorem start_openFile (d : Disk) (p : Path) : (d.openFile p).1.start = d.start := by
  obtain ⟨folders, ⟨fault, h⟩ | ⟨-, h⟩ | ⟨-, h⟩⟩ := openFile_cases d p
  · rw [h]
  · rw [h]
  · rw [h]

/-- Opening a file keeps every file with its lines; where it fails it makes none, and otherwise
the file is there, empty if it is new. -/
theorem file?_openFile (d : Disk) (p : Path) (other : Location) :
    (d.openFile p).1.file? other = (d.file? other).or
      (if (d.openFile p).2 = none ∧ other = p.location d.start then some [] else none) := by
  obtain ⟨folders, ⟨fault, h⟩ | ⟨hfile, h⟩ | ⟨hfile, h⟩⟩ := openFile_cases d p
  · rw [h, if_neg (by simp), Option.or_none]
    rfl
  · rw [h]
    by_cases hother : other = p.location d.start
    · rw [hother, Option.or_of_isSome hfile]
      rfl
    · rw [if_neg (by simp [hother]), Option.or_none]
      rfl
  · rw [h, file?, List.lookup_append]
    by_cases hother : other = p.location d.start
    · simp [hother, file?]
    · have hne : (other == p.location d.start) = false := beq_eq_false_iff_ne.mpr hother
      simp [hother, file?, List.lookup_cons, hne]

end Disk

/-! ## Lines -/

namespace LineFormat

/-- A format can write a record. -/
def CanWrite (format : LineFormat) (r : Record) : Prop := format.fault? r = none

/-- The line of a record, if the format can write it. -/
def line? (format : LineFormat) (r : Record) : Option String := (format.write r).1.toOption

theorem write_eq (format : LineFormat) (r : Record) :
    format.write r =
      ((match format.fault? r with | some fault => .error fault | none => .ok (format.line r)),
        format.leave r) := by
  rw [write]
  cases format.fault? r <;> rfl

theorem line?_of_canWrite {format : LineFormat} {r : Record} (h : format.CanWrite r) :
    format.line? r = some (format.line r) := by
  rw [line?, write, h]
  rfl

theorem line?_of_not_canWrite {format : LineFormat} {r : Record} (h : ¬ format.CanWrite r) :
    format.line? r = none := by
  obtain ⟨fault, hfault⟩ := Option.ne_none_iff_exists'.mp h
  rw [line?, write, hfault]
  rfl

theorem line?_eq_some_iff {format : LineFormat} {r : Record} {line : String} :
    format.line? r = some line ↔ format.CanWrite r ∧ format.line r = line := by
  rw [line?, write, CanWrite]
  cases format.fault? r <;> simp [Except.toOption]

end LineFormat

/-- A line for a target. -/
abbrev Written := Target × String

/-- What some outlets write of a record, in order.  Each has the record as the one before it left
it. -/
def written : List Outlet → Record → List Written
  | [], _ => []
  | o :: rest, r =>
    if r.level < o.level then written rest r
    else (o.format.line? r).toList.map (o.target, ·) ++ written rest (o.format.leave r)

/-- The lines for one target. -/
def linesFor (t : Target) (ws : List Written) : List String :=
  (ws.filter (·.1 = t)).map (·.2)

theorem linesFor_append (t : Target) (ws ws' : List Written) :
    linesFor t (ws ++ ws') = linesFor t ws ++ linesFor t ws' := by
  rw [linesFor, List.filter_append, List.map_append, linesFor, linesFor]

/-- Lines for one target are the lines of that target and of no other. -/
theorem linesFor_map (t other : Target) (lines : List String) :
    linesFor t (lines.map (other, ·)) = if other = t then lines else [] := by
  rw [linesFor, List.filter_map, List.map_map]
  split
  · next h => simp [h, Function.comp_def]
  · next h => simp [h, Function.comp_def]

/-- The lines for files, each with the place of its file. -/
def fileLines : List Written → List (Location × String)
  | [] => []
  | (.console, _) :: ws => fileLines ws
  | (.file place, line) :: ws => (place, line) :: fileLines ws

namespace Outlets

/-- Put a line where it belongs. -/
def put (s : Outlets) (w : Written) : Outlets :=
  match w.1 with
  | .console => { s with console := s.console ++ [w.2] }
  | .file place => { s with disk := s.disk.append place w.2 }

/-- The record is gone through the outlets, and what counts is what they have written of it. -/
theorem fst_foldl_writeTo (outlets : List Outlet) (s : Outlets) (r : Record) :
    (outlets.foldl writeTo (s, r)).1 = (written outlets r).foldl put s := by
  induction outlets generalizing s r with
  | nil => rfl
  | cons o outlets ih =>
    rw [List.foldl_cons, written, writeTo]
    by_cases hlevel : r.level < o.level
    · rw [if_pos hlevel, if_pos hlevel, ih]
    · rw [if_neg hlevel, if_neg hlevel, List.foldl_append, LineFormat.line?, LineFormat.write]
      cases o.format.fault? r with
      | some fault => exact ih _ _
      | none =>
        cases o.target with
        | console => exact ih _ _
        | file place => exact ih _ _

section Put

variable (s : Outlets) (ws : List Written)

theorem level_foldl_put : (ws.foldl put s).level = s.level := by
  induction ws generalizing s with
  | nil => rfl
  | cons w ws ih =>
    rw [List.foldl_cons, ih, put]
    split <;> rfl

theorem outlets_foldl_put : (ws.foldl put s).outlets = s.outlets := by
  induction ws generalizing s with
  | nil => rfl
  | cons w ws ih =>
    rw [List.foldl_cons, ih, put]
    split <;> rfl

theorem start_foldl_put : (ws.foldl put s).disk.start = s.disk.start := by
  induction ws generalizing s with
  | nil => rfl
  | cons w ws ih =>
    rw [List.foldl_cons, ih, put]
    split <;> rfl

/-- Every file gets its lines at its end. -/
theorem file?_foldl_put (place : Location) :
    (ws.foldl put s).disk.file? place =
      (s.disk.file? place).map (· ++ linesFor (.file place) ws) := by
  induction ws generalizing s with
  | nil => simp [linesFor]
  | cons w ws ih =>
    obtain ⟨t, line⟩ := w
    rw [List.foldl_cons, ih, put]
    cases t with
    | console => simp [linesFor]
    | file other =>
      dsimp only
      rw [Disk.file?_append]
      by_cases hplace : place = other
      · simp [linesFor, hplace, Function.comp_def]
      · have hne : ¬ other = place := fun h => hplace h.symm
        simp [linesFor, hplace, hne]

/-- What becomes of the disk depends on the lines for files alone. -/
theorem disk_foldl_put : (ws.foldl put s).disk =
    (fileLines ws).foldl (fun d w => d.append w.1 w.2) s.disk := by
  induction ws generalizing s with
  | nil => rfl
  | cons w ws ih =>
    obtain ⟨t, line⟩ := w
    cases t with
    | console => exact ih _
    | file place => exact ih _

end Put

/-- A record that is taken is written to all outlets, and another one to none. -/
theorem write_eq (s : Outlets) (r : Record) :
    s.write r = (if s.takes r.level then written s.outlets r else []).foldl put s := by
  rw [write]
  split
  · exact fst_foldl_writeTo s.outlets s r
  · rfl

end Outlets

end WorkflowEngine.Log
