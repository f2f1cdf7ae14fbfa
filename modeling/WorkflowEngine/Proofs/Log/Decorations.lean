import Mathlib.Data.List.Nodup
import Mathlib.Logic.Function.Iterate
import Mathlib.Order.Monotone.Basic
import WorkflowEngine.Proofs.Log.Writing

/-!
# What the console format leaves behind

The console format writes its color switches and the context into the record.  A record that is
written again has them twice, and every format shows it: each decoration makes each line longer,
so no line of a decorated record is the line of the record as it was.  An outlet is spared where
no outlet that takes the record in the console format comes before it.  This is so for the outlets
that a configuration installs, where the console comes last.  What cannot be written stays so: a
decoration changes texts, and it is never a text that a format fails at.
-/

namespace WorkflowEngine

namespace Json

theorem length_quoteChars (s : String) :
    (quoteChars false s).length = (s.toList.flatMap (escape false)).length + 2 := by
  rw [quoteChars_proper, List.length_append, List.length_cons]
  rfl

theorem two_le_length_quoteChars (s : String) : 2 ≤ (quoteChars false s).length := by
  rw [length_quoteChars]
  exact Nat.le_add_left ..

/-- Texts in a row save one pair of quotes. -/
theorem length_quoteChars_append (a b : String) :
    (quoteChars false ((a ++ b : String) : Text)).length + 2 =
      (quoteChars false a).length + (quoteChars false b).length := by
  simp only [length_quoteChars, String.toList_append, List.flatMap_append, List.length_append]
  omega

end Json

namespace Log

/-- A text several times in a row. -/
def copies (n : Nat) (text : String) : String := String.join (List.replicate n text)

theorem copies_zero (text : String) : copies 0 text = "" := rfl

theorem copies_succ (n : Nat) (text : String) : copies (n + 1) text = text ++ copies n text := by
  simp [copies, List.replicate_succ]

theorem copies_succ' (n : Nat) (text : String) : copies (n + 1) text = copies n text ++ text := by
  simp [copies, List.replicate_succ']

namespace Record

/-! ## Decorating several times -/

theorem head?_colorOf (name : String) : (colorOf name).toList.head? = some '\x1b' := by
  rw [colorOf]
  split_ifs
  all_goals rfl

/-- A text that begins with a switch is not the name of a level. -/
theorem colorOf_of_head? {name : String} (h : name.toList.head? = some '\x1b') :
    colorOf name = colorReset := by
  have hhead : ∀ level ∈ ["DEBUG", "INFO", "WARNING", "ERROR", "CRITICAL"],
      level.toList.head? ≠ some '\x1b' := by decide
  have hne : ∀ level ∈ ["DEBUG", "INFO", "WARNING", "ERROR", "CRITICAL"], name ≠ level :=
    fun level hlevel heq => hhead level hlevel (heq ▸ h)
  simp only [List.forall_mem_cons] at hne
  obtain ⟨hdebug, hinfo, hwarning, herror, hcritical, -⟩ := hne
  rw [colorOf, if_neg hdebug, if_neg hinfo, if_neg hwarning, if_neg herror, if_neg hcritical,
    colorReset]

/-- The name of a level after one decoration and some more.  It keeps its color from the first one,
when it was still the name of a level. -/
def shownName (more : Nat) (name : String) : String :=
  copies more colorReset ++ (colorOf name ++ name) ++ copies (more + 1) colorReset

theorem head?_shownName (more : Nat) (name : String) :
    (shownName more name).toList.head? = some '\x1b' := by
  rw [shownName]
  cases more with
  | zero => simp [copies_zero, List.head?_append, head?_colorOf]
  | succ more => simp [copies_succ, colorReset]

theorem shownName_zero (name : String) :
    shownName 0 name = colorOf name ++ name ++ colorReset := by
  simp [shownName, copies_succ, copies_zero]

theorem shownName_succ (more : Nat) (name : String) :
    shownName (more + 1) name =
      colorOf (shownName more name) ++ shownName more name ++ colorReset := by
  rw [colorOf_of_head? (head?_shownName more name), shownName, copies_succ more,
    copies_succ' (more + 1), shownName]
  simp only [String.append_assoc]

/-- Decorations change the level name and the message and nothing else. -/
theorem decorate_iterate_succ (r : Record) (more : Nat) :
    decorate^[more + 1] r = { r with
      levelName := shownName more r.levelName
      message := r.message ++ copies (more + 1) r.contextNote } := by
  induction more with
  | zero =>
    rw [Function.iterate_one, decorate, shownName_zero, copies_succ, copies_zero,
      String.append_empty]
  | succ more ih =>
    rw [Function.iterate_succ_apply', ih, decorate, shownName_succ, copies_succ' (more + 1),
      ← String.append_assoc]
    rfl

/-! ## Lines grow -/

theorem length_withTrace (line trace : String) :
    (withTrace line trace).length =
      line.length + (if trace = "" ∨ line.endsWith "\n" then 0 else 1) + trace.length := by
  rw [withTrace]
  by_cases htrace : trace = ""
  · simp [htrace]
  · by_cases hend : line.endsWith "\n" = true
    · simp [htrace, hend]
    · have hbreak : "\n".length = 1 := rfl
      simp [htrace, hend, String.length_append, hbreak]

/-- A trace adds at most a line break of its own. -/
theorem length_withTrace_lt {line longer : String} (h : line.length + 1 < longer.length)
    (trace : String) : (withTrace line trace).length < (withTrace longer trace).length := by
  rw [length_withTrace, length_withTrace]
  split_ifs
  all_goals omega

theorem length_plainLine_lt (r : Record) : r.plainLine.length < r.decorate.plainLine.length := by
  have hline : ∀ start : String,
      (start ++ r.levelName ++ " - " ++ r.message).length + 1 <
        (start ++ r.decorate.levelName ++ " - " ++ r.decorate.message).length := by
    intro start
    have hreset : colorReset.length = 4 := rfl
    simp only [decorate, String.length_append]
    omega
  have hfailure : r.decorate.failure = r.failure := rfl
  have htime : r.decorate.time = r.time := rfl
  have hlogger : r.decorate.logger = r.logger := rfl
  rw [plainLine, plainLine, hfailure, htime, hlogger]
  cases r.failure with
  | none => exact Nat.lt_of_succ_lt (hline _)
  | some f => exact length_withTrace_lt (hline _) _

/-- A longer level name makes the line longer, if the message is no shorter. -/
theorem length_logLine_toJson_lt (service version : String) (r : Record)
    {levelName message : String}
    (hname : (Json.quoteChars false r.levelName).length < (Json.quoteChars false levelName).length)
    (hmessage :
      (Json.quoteChars false r.message).length ≤ (Json.quoteChars false message).length) :
    (r.toJson service version).logLine.length <
      ({ r with levelName, message }.toJson service version).logLine.length := by
  have hcontext : { r with levelName, message }.fullContext = r.fullContext := rfl
  simp only [toJson, hcontext, List.cons_append, List.nil_append, Json.logLine, Json.chars,
    Json.memberChars, Json.leafChars, JsonStyle.log, String.length_ofList, List.length_append,
    List.length_cons]
  omega

theorem length_quoteChars_shown_lt (name : String) :
    (Json.quoteChars false name).length <
      (Json.quoteChars false ((colorOf name ++ name ++ colorReset : String) : Text)).length := by
  have hreset : (Json.quoteChars false colorReset).length = 11 := by decide
  have hshown := Json.length_quoteChars_append (colorOf name ++ name) colorReset
  have hcolored := Json.length_quoteChars_append (colorOf name) name
  have hcolor := Json.two_le_length_quoteChars (colorOf name)
  omega

end Record

namespace LineFormat

/-- Every format writes a longer line of a record that was decorated. -/
theorem length_line_lt (format : LineFormat) (r : Record) :
    (format.line r).length < (format.line r.decorate).length := by
  cases format with
  | json service version =>
    have hmessage := Json.length_quoteChars_append r.message r.contextNote
    have hlevel := Record.length_quoteChars_shown_lt r.levelName
    have hnote := Json.two_le_length_quoteChars r.contextNote
    exact r.length_logLine_toJson_lt service version hlevel (by omega)
  | colored => exact r.decorate.length_plainLine_lt
  | plain => exact r.length_plainLine_lt

/-- A decoration changes nothing that a format fails at. -/
theorem fault?_decorate (format : LineFormat) (r : Record) :
    format.fault? r.decorate = format.fault? r := by
  cases format with
  | json service version => rfl
  | colored => rfl
  | plain => rfl

theorem fault?_leave (format : LineFormat) (r : Record) :
    format.fault? (format.leave r) = format.fault? r := by
  cases format with
  | json service version => rfl
  | colored => exact colored.fault?_decorate r
  | plain => rfl

/-- The record after it has been written some times. -/
def leaves (format : LineFormat) (times : Nat) (r : Record) : Record := format.leave^[times] r

theorem fault?_leaves_colored (format : LineFormat) (times : Nat) (r : Record) :
    format.fault? (colored.leaves times r) = format.fault? r := by
  induction times with
  | zero => rfl
  | succ times ih =>
    rw [leaves, Function.iterate_succ_apply']
    exact (format.fault?_decorate _).trans ih

theorem canWrite_leaves_iff (format : LineFormat) (times : Nat) (r : Record) :
    format.CanWrite (colored.leaves times r) ↔ format.CanWrite r := by
  rw [CanWrite, fault?_leaves_colored, CanWrite]

/-- The lines of a record after more and more decorations are all different. -/
theorem line_leaves_injective (format : LineFormat) (r : Record) :
    Function.Injective fun n => format.line (colored.leaves n r) := by
  have hgrows : StrictMono fun n => (format.line (colored.leaves n r)).length := by
    refine strictMono_nat_of_lt_succ fun n => ?_
    rw [leaves, leaves, Function.iterate_succ_apply']
    exact format.length_line_lt _
  exact fun i j hlines => hgrows.injective (congrArg String.length hlines)

/-- The line of a record after some decorations is that of the record only after none. -/
theorem line_leaves_eq_iff (format : LineFormat) (times : Nat) (r : Record) :
    format.line (colored.leaves times r) = format.line r ↔ times = 0 :=
  (format.line_leaves_injective r).eq_iff (b := 0)

/-! ## Writing one record several times -/

/-- Of a record that was written, a format writes the same line again only where it was not
written at all, or where the format cannot write it. -/
theorem write_leaves_eq_iff (format : LineFormat) (times : Nat) (r : Record) :
    (format.write (colored.leaves times r)).1 = (format.write r).1 ↔
      times = 0 ∨ ¬ format.CanWrite r := by
  rw [write_eq, write_eq, fault?_leaves_colored, CanWrite]
  cases format.fault? r with
  | some fault => simp
  | none =>
    simp only [Except.ok.injEq, not_true_eq_false, or_false]
    exact format.line_leaves_eq_iff times r

theorem writeTimes_eq {format : LineFormat} {r : Record} (h : format.CanWrite r) (times : Nat) :
    format.writeTimes times r =
      .ok ((List.range times).map fun n => format.line (format.leaves n r)) := by
  induction times generalizing r with
  | zero => rfl
  | succ times ih =>
    have hnext : format.CanWrite (format.leave r) := (format.fault?_leave r).trans h
    rw [writeTimes, write_eq, h, List.range_succ_eq_map, List.map_cons, List.map_map]
    dsimp only
    rw [ih hnext]
    rfl

/-- The console format writes a record that it can write as often as it is asked to, and never the
same way. -/
theorem exists_writeTimes_colored {r : Record} (h : colored.CanWrite r) (times : Nat) :
    ∃ lines, colored.writeTimes times r = .ok lines ∧ lines.length = times ∧ lines.Nodup := by
  refine ⟨_, writeTimes_eq h times, ?_, ?_⟩
  · rw [List.length_map, List.length_range]
  · exact List.nodup_range.map (colored.line_leaves_injective r)

end LineFormat

/-! ## Outlets -/

namespace Outlet

/-- An outlet changes what another one behind it writes of a record: it takes the record in the
console format, and the other one takes it too and can write it. -/
def Disturbs (r : Record) (o other : Outlet) : Prop :=
  o.format = .colored ∧ o.level ≤ r.level ∧ other.level ≤ r.level ∧ other.format.CanWrite r

end Outlet

theorem written_singleton (o : Outlet) (r : Record) :
    written [o] r =
      if r.level < o.level then [] else (o.format.line? r).toList.map (o.target, ·) := by
  rw [written, written, written, List.append_nil]

theorem written_cons_alone (o : Outlet) (rest : List Outlet) (r : Record) :
    written (o :: rest) r =
      written [o] r ++
        written rest (if o.format = .colored ∧ o.level ≤ r.level then r.decorate else r) := by
  by_cases hlevel : r.level < o.level
  · simp [written, hlevel, not_le.mpr hlevel]
  · cases hformat : o.format with
    | json service version => simp [written, hlevel, hformat, LineFormat.leave]
    | colored => simp [written, hlevel, hformat, LineFormat.leave, not_lt.mp hlevel]
    | plain => simp [written, hlevel, hformat, LineFormat.leave]

/-- Whatever takes a record, it has been decorated as often as before or once more. -/
theorem LineFormat.exists_leave_leaves (format : LineFormat) (times : Nat) (r : Record) :
    ∃ more, format.leave (colored.leaves (times + 1) r) = colored.leaves (more + 1) r := by
  cases format with
  | json service version => exact ⟨times, rfl⟩
  | colored => exact ⟨times + 1, (Function.iterate_succ_apply' ..).symm⟩
  | plain => exact ⟨times, rfl⟩

/-- Of a record that was decorated, outlets write the lines of the record as it was only where they
write none. -/
theorem written_leaves_eq_iff (outlets : List Outlet) (times : Nat) (r : Record) :
    written outlets (LineFormat.colored.leaves (times + 1) r) = outlets.flatMap (written [·] r) ↔
      ∀ o ∈ outlets, ¬ (o.level ≤ r.level ∧ o.format.CanWrite r) := by
  induction outlets generalizing times with
  | nil => simp [written]
  | cons o rest ih =>
    have hlevels : (LineFormat.colored.leaves (times + 1) r).level = r.level := by
      have hmarks : LineFormat.colored.leaves (times + 1) r = _ := r.decorate_iterate_succ times
      rw [hmarks]
    obtain ⟨more, hmore⟩ := o.format.exists_leave_leaves times r
    rw [List.flatMap_cons, List.forall_mem_cons, written, hlevels, hmore, written_singleton]
    by_cases hlevel : r.level < o.level
    · rw [if_pos hlevel, if_pos hlevel, List.nil_append, ih times]
      exact (and_iff_right fun h => not_le.mpr hlevel h.1).symm
    rw [if_neg hlevel, if_neg hlevel]
    by_cases hwrites : o.format.CanWrite r
    · have hagain := (o.format.canWrite_leaves_iff (times + 1) r).mpr hwrites
      have hlines : o.format.line (LineFormat.colored.leaves (times + 1) r) ≠ o.format.line r :=
        mt (o.format.line_leaves_eq_iff (times + 1) r).mp (Nat.succ_ne_zero times)
      rw [LineFormat.line?_of_canWrite hagain, LineFormat.line?_of_canWrite hwrites]
      refine iff_of_false (fun h => hlines ?_) fun h => h.1 ⟨not_lt.mp hlevel, hwrites⟩
      rw [Option.toList_some, Option.toList_some, List.map_singleton, List.map_singleton] at h
      exact congrArg Prod.snd (List.cons.inj h).1
    · have hagain := mt (o.format.canWrite_leaves_iff (times + 1) r).mp hwrites
      rw [LineFormat.line?_of_not_canWrite hagain, LineFormat.line?_of_not_canWrite hwrites,
        Option.toList_none, List.map_nil, List.nil_append, List.nil_append, ih more]
      exact (and_iff_right fun h => hwrites h.2).symm

/-- Every outlet writes what it would write alone, unless one of them disturbs a later one. -/
theorem written_eq_flatMap_iff (outlets : List Outlet) (r : Record) :
    written outlets r = outlets.flatMap (written [·] r) ↔
      outlets.Pairwise fun o other => ¬ o.Disturbs r other := by
  induction outlets with
  | nil => simp [written]
  | cons o rest ih =>
    rw [written_cons_alone, List.flatMap_cons, List.append_cancel_left_eq, List.pairwise_cons]
    by_cases hdecorates : o.format = .colored ∧ o.level ≤ r.level
    · have hdisturbs : ∀ other : Outlet, ¬ o.Disturbs r other ↔
          ¬ (other.level ≤ r.level ∧ other.format.CanWrite r) := by
        intro other
        simp [Outlet.Disturbs, hdecorates]
      have hlater : written rest r.decorate = rest.flatMap (written [·] r) ↔ _ :=
        written_leaves_eq_iff rest 0 r
      rw [if_pos hdecorates, hlater]
      simp only [hdisturbs]
      refine ⟨fun hlater => ⟨hlater, ?_⟩, And.left⟩
      exact List.pairwise_of_forall_mem_list fun p _ other hother hp =>
        hlater other hother hp.2.2
    · have hdisturbs : ∀ other : Outlet, ¬ o.Disturbs r other :=
        fun other h => hdecorates ⟨h.1, h.2.1⟩
      rw [if_neg hdecorates, ih]
      exact (and_iff_right fun other _ => hdisturbs other).symm

/-- In a configuration the console comes last, so that no outlet disturbs another one. -/
theorem pairwise_outletsFor (settings : Settings) (options : Options) (level : Level)
    (service : String) (file : Option Location) (r : Record) :
    (Outlets.outletsFor settings options level service file).Pairwise
      fun o other => ¬ o.Disturbs r other := by
  cases hconsole : options.console with
  | false => cases file <;> simp [Outlets.outletsFor, hconsole]
  | true =>
    cases file with
    | none => simp [Outlets.outletsFor, hconsole]
    | some place => cases hjson : options.jsonFile <;>
        simp [Outlets.outletsFor, Outlet.Disturbs, hconsole, hjson]

/-- The console format marks the record it writes.  The level name and the message of a record tell
how often it was written, so all its lines are different, and every other format shows it too,
wherever it can write the record.  Outlets write of a record what each of them would write alone,
unless one that takes it in the console format comes before another one that takes it and can
write it.  No configuration arranges them so. -/
theorem console_marks (r : Record) :
    (∀ more,
      LineFormat.colored.leaves (more + 1) r =
        { r with
          levelName := Record.shownName more r.levelName
          message := r.message ++ copies (more + 1) r.contextNote }) ∧
      (LineFormat.colored.CanWrite r → ∀ times, ∃ lines,
        LineFormat.colored.writeTimes times r = .ok lines ∧
          lines.length = times ∧ lines.Nodup) ∧
      (∀ (format : LineFormat) (times : Nat),
        (format.line (LineFormat.colored.leaves times r) = format.line r ↔ times = 0) ∧
          ((format.write (LineFormat.colored.leaves times r)).1 = (format.write r).1 ↔
            times = 0 ∨ ¬ format.CanWrite r)) ∧
      (∀ outlets : List Outlet,
        written outlets r = outlets.flatMap (written [·] r) ↔
          outlets.Pairwise fun o other => ¬ o.Disturbs r other) ∧
      ∀ (settings : Settings) (options : Options) (level : Level) (service : String)
        (file : Option Location),
        written (Outlets.outletsFor settings options level service file) r =
          (Outlets.outletsFor settings options level service file).flatMap (written [·] r) :=
  ⟨r.decorate_iterate_succ, fun h => LineFormat.exists_writeTimes_colored h,
    fun format times =>
      ⟨format.line_leaves_eq_iff times r, format.write_leaves_eq_iff times r⟩,
    fun outlets => written_eq_flatMap_iff outlets r,
    fun settings options level service file =>
      (written_eq_flatMap_iff _ r).mpr (pairwise_outletsFor settings options level service file r)⟩

/-- A record with a context. -/
def countedSteps : Record :=
  .ofEntry (.whole 0) ⟨"test", Level.info, "Test message", [("steps", .int 2)], []⟩

theorem console_lines_differ :
    LineFormat.colored.writeTimes 2 countedSteps = .ok
      ["1970-01-01 00:00:00 - test - \x1b[32mINFO\x1b[0m - Test message" ++
          r#" | Context: {"steps": 2}"#,
        "1970-01-01 00:00:00 - test - \x1b[0m\x1b[32mINFO\x1b[0m\x1b[0m - Test message" ++
          r#" | Context: {"steps": 2} | Context: {"steps": 2}"#] ∧
      ((LineFormat.json defaultService defaultVersion).write
          (LineFormat.colored.write countedSteps).2).1 ≠
        ((LineFormat.json defaultService defaultVersion).write countedSteps).1 := by
  decide +kernel

end Log

end WorkflowEngine
