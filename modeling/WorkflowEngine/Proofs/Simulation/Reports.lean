import WorkflowEngine.Proofs.Json.WriteRead
import WorkflowEngine.Proofs.Schema.LeafValues
import WorkflowEngine.Proofs.Schema.WrittenObjects
import WorkflowEngine.Simulation

/-!
# Reports and simulations

What blocks is decided in three places: by the simulation, by the part of a report that holds the
errors and by the part that holds the warnings.  All three agree for every list of findings, and
no finding is lost or doubled when a report splits them.  A report is written without null, so
that a finding about no node is told apart from one about a node with an empty id, and it is read
back as it was.
-/

namespace WorkflowEngine

/-! ## Values without null -/

/-- A value that is not null and holds no null. -/
inductive Json.NullFree : Json → Prop where
  | bool (b : Bool) : NullFree (.bool b)
  | int (n : Int) : NullFree (.int n)
  | float (x : Binary64) : NullFree (.float x)
  | str (t : Text) : NullFree (.str t)
  | arr {xs : List Json} (hxs : ∀ x ∈ xs, NullFree x) : NullFree (.arr xs)
  | obj {ms : Members} (hms : ∀ m ∈ ms, NullFree m.2) : NullFree (.obj ms)

/-- A value made of texts and truth values alone, in which no object has a key twice. -/
inductive Json.Worded : Json → Prop where
  | bool (b : Bool) : Worded (.bool b)
  | str (t : Text) : Worded (.str t)
  | arr {xs : List Json} (hxs : ∀ x ∈ xs, Worded x) : Worded (.arr xs)
  | obj {ms : Members} (hkeys : (ms.map Prod.fst).Nodup) (hms : ∀ m ∈ ms, Worded m.2) :
    Worded (.obj ms)

namespace Json.Worded

variable {j : Json}

theorem nullFree (h : j.Worded) : j.NullFree := by
  induction h with
  | bool b => exact .bool b
  | str s => exact .str s
  | arr _ ih => exact .arr ih
  | obj _ _ ih => exact .obj ih

theorem storable (h : j.Worded) : j.Storable := by
  induction h with
  | bool b => exact .bool b
  | str s => exact .str s
  | arr _ ih => exact .arr ih
  | obj hkeys _ ih => exact .obj hkeys ih

theorem isFinite (h : j.Worded) : j.isFinite = true := by
  induction h with
  | bool b => rfl
  | str s => rfl
  | arr _ ih => exact (isFinite_arr _).mpr ih
  | obj _ _ ih => exact (isFinite_obj _).mpr ih

/-- Such a value is read back from its text if its texts are strings. -/
theorem read_compact_self (h : j.Worded) (hproper : j.isProper = true) :
    read j.compact = .ok j := by
  rw [read_compact h.storable hproper, (asWritten_eq_self_iff j).mpr h.isFinite]

end Json.Worded

/-! ## Interleaved lists -/

/-- A list takes its items from two lists, each of which it uses up in order. -/
inductive Interleaves {α : Type} : List α → List α → List α → Prop where
  | done : Interleaves [] [] []
  | left {x : α} {xs ys zs : List α} (h : Interleaves xs ys zs) :
      Interleaves (x :: xs) ys (x :: zs)
  | right {y : α} {xs ys zs : List α} (h : Interleaves xs ys zs) :
      Interleaves xs (y :: ys) (y :: zs)

section Interleaves

variable {α : Type} {xs ys zs : List α}

theorem Interleaves.sublists (h : Interleaves xs ys zs) : xs.Sublist zs ∧ ys.Sublist zs := by
  induction h with
  | done => exact ⟨.slnil, .slnil⟩
  | left _ ih => exact ⟨ih.1.cons_cons _, ih.2.cons _⟩
  | right _ ih => exact ⟨ih.1.cons _, ih.2.cons_cons _⟩

theorem Interleaves.perm (h : Interleaves xs ys zs) : (xs ++ ys).Perm zs := by
  induction h with
  | done => exact .nil
  | left _ ih => exact ih.cons _
  | right _ ih => exact List.perm_middle.trans (ih.cons _)

/-- The items with a property and the items without it interleave to the list. -/
theorem interleaves_filter (p : α → Bool) (zs : List α) :
    Interleaves (zs.filter p) (zs.filter (!p ·)) zs := by
  induction zs with
  | nil => exact .done
  | cons z zs ih =>
    cases hz : p z with
    | true => simpa [hz] using ih.left
    | false => simpa [hz] using ih.right

end Interleaves

/-! ## Written findings -/

theorem FindingCode.ofName?_name (c : FindingCode) : FindingCode.ofName? c.name = some c := by
  cases c <;> decide

theorem Severity.ofName?_name (s : Severity) : Severity.ofName? s.name = some s := by
  cases s <;> decide

namespace Finding

open Schema

theorem distinct_model : model.Distinct := ⟨by decide, by decide⟩

/-- The text that a finding has for a field, if it has one. -/
def text? (f : Finding) : String → Option Text
  | "nodeId" => f.node
  | "edgeId" => f.edge
  | "code" => some f.code.name
  | "message" => some f.message
  | "severity" => some f.severity.name
  | _ => none

theorem toJson_eq_written (f : Finding) :
    f.toJson = .obj (model.written fun key => (f.text? key).map .str) := by
  obtain ⟨node, edge, code, message, severity⟩ := f
  cases node <;> cases edge <;> rfl

/-- What a finding writes is accepted as it is. -/
theorem check_toJson (f : Finding) : model.shape.check f.toJson = .ok f.toJson := by
  have hcode : (FindingCode.all.map FindingCode.name).contains f.code.name = true := by
    cases f.code <;> decide
  have hseverity : (Severity.all.map Severity.name).contains f.severity.name = true := by
    cases f.severity <;> decide
  rw [toJson_eq_written]
  have hid : ∀ (name : FieldName) (id? : Option Text),
      (Field.optional name (.leaf .optionalText) .null).Takes (id?.map .str) := by
    intro name id?
    cases id? with
    | none => rfl
    | some id => exact Leaf.check_optionalText_eq_ok_iff.mpr ⟨rfl, Or.inr ⟨id, rfl⟩⟩
  refine Model.check_written distinct_model rfl ?_
  simp only [model, List.forall_mem_cons]
  exact ⟨hid _ f.node, hid _ f.edge, if_pos hcode, Leaf.check_str f.message, if_pos hseverity,
    List.forall_mem_nil _⟩

/-- Reading what a finding writes gives the finding: a missing id is no empty id. -/
theorem ofCanonical_toJson (f : Finding) : ofCanonical f.toJson = f := by
  obtain ⟨node, edge, code, message, severity⟩ := f
  have hcode : (FindingCode.ofName? code.name).getD default = code := by
    rw [FindingCode.ofName?_name, Option.getD_some]
  have hseverity : (Severity.ofName? severity.name).getD default = severity := by
    rw [Severity.ofName?_name, Option.getD_some]
  rw [ofCanonical, Finding.mk.injEq]
  cases node <;> cases edge <;> exact ⟨rfl, rfl, hcode, rfl, hseverity⟩

theorem worded_toJson (f : Finding) : f.toJson.Worded := by
  rw [toJson_eq_written]
  refine .obj (Model.nodup_keys_written distinct_model) fun member hmember => ?_
  obtain ⟨field, -, -, hvalue⟩ := Model.mem_written_iff.mp hmember
  obtain ⟨s, -, hs⟩ := Option.map_eq_some_iff.mp hvalue
  rw [← hs]
  exact .str s

end Finding

/-! ## Written reports -/

namespace Report

open Schema

theorem distinct_model : model.Distinct := ⟨by decide, by decide⟩

/-- The value that a report has for a field. -/
def value? (r : Report) : String → Option Json
  | "findings" => some (.arr (r.findings.map Finding.toJson))
  | "errors" => some (.arr (r.errors.map Finding.toJson))
  | "warnings" => some (.arr (r.warnings.map Finding.toJson))
  | "isValid" => some (.bool r.isValid)
  | "hasWarnings" => some (.bool r.hasWarnings)
  | _ => none

theorem toJson_eq_written (r : Report) : r.toJson = .obj (model.written r.value?) := rfl

theorem check_findings (findings : List Finding) :
    (Shape.list Finding.model.shape).check (.arr (findings.map Finding.toJson)) =
      .ok (.arr (findings.map Finding.toJson)) := by
  rw [Shape.check_list_eq_ok_iff]
  refine ⟨_, _, rfl, rfl, ?_⟩
  rw [List.map_map, List.map_map]
  exact List.map_congr_left fun f _ => f.check_toJson

theorem check_toJson (r : Report) : model.shape.check r.toJson = .ok r.toJson := by
  rw [toJson_eq_written]
  refine Model.check_written distinct_model rfl ?_
  simp only [model, List.forall_mem_cons]
  exact ⟨check_findings r.findings, check_findings r.errors, check_findings r.warnings, rfl, rfl,
    List.forall_mem_nil _⟩

theorem ofCanonical_toJson (r : Report) : ofCanonical r.toJson = r := by
  have hfindings : ∀ fs : List Finding, (fs.map Finding.toJson).map Finding.ofCanonical = fs := by
    intro fs
    rw [List.map_map]
    exact (List.map_congr_left fun f _ => f.ofCanonical_toJson).trans (List.map_id fs)
  rw [ofCanonical, Report.mk.injEq]
  exact ⟨hfindings r.findings, hfindings r.errors, hfindings r.warnings, rfl, rfl⟩

/-- A report is read back as it was. -/
theorem ofJson_toJson (r : Report) : ofJson r.toJson = .ok r := by
  rw [ofJson, check_toJson]
  exact congrArg Except.ok r.ofCanonical_toJson

theorem worded_toJson (r : Report) : r.toJson.Worded := by
  have hfindings : ∀ fs : List Finding, (Json.arr (fs.map Finding.toJson)).Worded := by
    intro fs
    refine .arr fun x hx => ?_
    obtain ⟨f, -, rfl⟩ := List.mem_map.mp hx
    exact f.worded_toJson
  have hkeys : ((model.written r.value?).map Prod.fst).Nodup :=
    Model.nodup_keys_written distinct_model
  refine .obj hkeys ?_
  simp only [List.forall_mem_cons]
  exact ⟨hfindings r.findings, hfindings r.errors, hfindings r.warnings, .bool r.isValid,
    .bool r.hasWarnings, fun _ hnone => absurd hnone List.not_mem_nil⟩

end Report

/-! ## Reports and simulations -/

namespace Workflow

/-- A simulation for which certain findings hold succeeds exactly if a report of them is
valid. -/
theorem success_simulateWith (w : Workflow) (findings : List Finding) :
    (w.simulateWith findings).result.success = (Report.ofFindings findings).isValid := by
  simp only [simulateWith, Report.ofFindings]
  cases (findings.filter (·.isBlocking)).isEmpty <;> rfl

theorem findings_simulateWith (w : Workflow) (findings : List Finding) :
    (w.simulateWith findings).result.findings = findings := by
  simp only [simulateWith]
  cases (findings.filter (·.isBlocking)).isEmpty <;> rfl

theorem success_simulate (w : Workflow) :
    w.simulate.result.success = w.report.result.isValid :=
  w.success_simulateWith w.validate.result

theorem findings_simulate (w : Workflow) :
    w.simulate.result.findings = w.validate.result :=
  w.findings_simulateWith w.validate.result

/-- A simulation succeeds if nothing blocks it. -/
theorem success_simulate_iff (w : Workflow) :
    w.simulate.result.success = true ↔ ∀ f ∈ w.validate.result, f.severity ≠ .error := by
  have hblocking : ∀ f : Finding, f.isBlocking = true ↔ f.severity = .error := by
    simp [Finding.isBlocking]
  have hvalid : w.report.result.isValid = (w.validate.result.filter (·.isBlocking)).isEmpty := rfl
  rw [success_simulate, hvalid]
  simp only [List.isEmpty_iff, List.filter_eq_nil_iff, hblocking, ne_eq]

end Workflow

namespace Report

/-- A report splits some findings: its errors and its warnings are these findings in their order,
each of them once, and they are told apart by what blocks. -/
structure Splits (r : Report) (findings : List Finding) : Prop where
  all : r.findings = findings
  interleaved : Interleaves r.errors r.warnings findings
  once : (r.errors ++ r.warnings).Perm findings
  errors_block : ∀ f ∈ r.errors, f.severity = .error
  warnings_pass : ∀ f ∈ r.warnings, f.severity ≠ .error
  isValid_iff : r.isValid = true ↔ r.errors = []
  hasWarnings_iff : r.hasWarnings = true ↔ r.warnings ≠ []

theorem splits_ofFindings (findings : List Finding) : (ofFindings findings).Splits findings := by
  have hinterleaved := interleaves_filter Finding.isBlocking findings
  constructor
  case all =>
    rfl
  case interleaved =>
    exact hinterleaved
  case once =>
    exact hinterleaved.perm
  case errors_block =>
    intro f hf
    simpa [Finding.isBlocking] using (List.mem_filter.mp hf).2
  case warnings_pass =>
    intro f hf
    simpa [Finding.isBlocking] using (List.mem_filter.mp hf).2
  case isValid_iff =>
    exact List.isEmpty_iff
  case hasWarnings_iff =>
    simp [ofFindings]

/-- Simulating a workflow succeeds exactly if the report on it is valid, both show the same
findings, and no finding of a simulation that succeeds is an error.  Every list of findings is
split into errors and warnings of which it is an interleaving, the errors being what blocks, and
the report is written without null and is read back, as a value and, if its texts are strings, as
a text. -/
theorem report_agrees_with_simulation :
    (∀ w : Workflow,
        w.simulate.result.success = w.report.result.isValid ∧
          w.simulate.result.findings = w.report.result.findings ∧
          (w.simulate.result.success = true ↔
            ∀ f ∈ w.simulate.result.findings, f.severity ≠ .error)) ∧
      ∀ findings : List Finding,
        (ofFindings findings).Splits findings ∧
          (ofFindings findings).errors.Sublist findings ∧
          (ofFindings findings).warnings.Sublist findings ∧
          (ofFindings findings).toJson.NullFree ∧
          ofJson (ofFindings findings).toJson = .ok (ofFindings findings) ∧
          ((ofFindings findings).toJson.isProper = true →
            Json.read (ofFindings findings).toJson.compact = .ok (ofFindings findings).toJson) := by
  refine ⟨fun w => ?_, fun findings => ?_⟩
  · have hreport : w.report.result.findings = w.validate.result := rfl
    rw [hreport, w.findings_simulate]
    exact ⟨w.success_simulate, rfl, w.success_simulate_iff⟩
  · have hsplits := splits_ofFindings findings
    have hworded := (ofFindings findings).worded_toJson
    exact ⟨hsplits, hsplits.interleaved.sublists.1, hsplits.interleaved.sublists.2,
      hworded.nullFree, (ofFindings findings).ofJson_toJson, hworded.read_compact_self⟩

end Report

end WorkflowEngine
