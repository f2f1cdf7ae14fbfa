import WorkflowEngine.Proofs.Analysis.Codes
import WorkflowEngine.Proofs.Document.Outcomes
import WorkflowEngine.Simulation

/-!
# The engine logs what it does

Loading, checking and simulating log entries beside their results.  What the entries say follows
from the results alone: from the error that is reported, from the findings, and from how a
simulation ended.  Only the cycle in the log is told nowhere else, and it is a closed walk along
edges of the workflow.
-/

namespace WorkflowEngine

open Log

namespace Document

/-! ## Loading -/

/-- A context repeats what an error about a document carries: its position, the problems with its
fields, or else the reason for which it is refused. -/
def Repeats : EngineError → Members → Prop
  | .invalidJson line column, context =>
    context.get? "line" = some (.int line) ∧ context.get? "column" = some (.int column)
  | .invalidStructure reason problems, context =>
    if reason = LoadFailure.fieldsReason then context.get? "errors" = some (.arr problems)
    else context.get? "reason" = some (.str reason)
  | _, _ => False

/-- Entries tell how loading ended: there is one warning that repeats the error if an error is
reported, and otherwise there is nothing. -/
def TellsEnding : Option (Except EngineError Document) → List Entry → Prop
  | some (.error e), entries =>
    ∃ entry, entries = [entry] ∧ entry.level = Level.warning ∧ Repeats e entry.context
  | _, entries => entries = []

theorem reason_ne_fieldsReason (fault : StructureFault) :
    fault.reason ≠ LoadFailure.fieldsReason := by
  cases fault <;> simp [StructureFault.reason, LoadFailure.fieldsReason]

/-- A failure that is reported as an error is logged as one warning that repeats the error, and
any other failure is not logged. -/
theorem tellsEnding_log (failure : LoadFailure) :
    TellsEnding (failure.error?.map .error) failure.log.entries := by
  cases failure with
  | notJson position => exact ⟨_, rfl, rfl, rfl, rfl⟩
  | undecodable position encoding => exact ⟨_, rfl, rfl, rfl, rfl⟩
  | tooManyDigits count => exact rfl
  | badStructure fault =>
    refine ⟨_, rfl, rfl, ?_⟩
    rw [Repeats, if_neg (reason_ne_fieldsReason fault)]
    rfl
  | badFields issues =>
    refine ⟨_, rfl, rfl, ?_⟩
    rw [Repeats, if_pos rfl]
    rfl

theorem entries_load (source : Source) :
    (load source).entries =
      match tryLoad source with
      | .ok _ => []
      | .error failure => failure.log.entries := by
  rw [load]
  cases tryLoad source with
  | ok d => rfl
  | error failure => exact List.append_nil _

theorem tellsEnding_load (source : Source) :
    TellsEnding (outcome source) (load source).entries := by
  rw [entries_load]
  cases hload : tryLoad source with
  | ok d =>
    rw [outcome_of_tryLoad hload]
    exact rfl
  | error failure =>
    rw [outcome_of_error hload]
    exact tellsEnding_log failure

end Document

namespace Workflow

/-! ## Checking -/

/-- An entry names a cycle of a workflow. -/
def TellsCycle (w : Workflow) (entry : Entry) : Prop :=
  entry.message = "Cycle detected" ∧
    ∃ cycle, entry.context.get? "cycle_path" = some (.strings cycle) ∧
      Graph.ClosedWalk w.pairs cycle

/-- An entry counts some findings, those that block and the others. -/
def TellsCounts (findings : List Finding) (entry : Entry) : Prop :=
  entry.message = "Workflow validated" ∧
    entry.context.get? "errors" = some (.nat (findings.filter (·.isBlocking)).length) ∧
    entry.context.get? "warnings" = some (.nat (findings.filter (!·.isBlocking)).length)

/-- Entries tell what a check of a workflow has found: there is one about a cycle if a cycle is
among the findings, and then one that counts them. -/
def TellsFindings (w : Workflow) (findings : List Finding) (entries : List Entry) : Prop :=
  ∃ about counts, entries = about ++ [counts] ∧ TellsCounts findings counts ∧
    if ∃ f ∈ findings, f.code = .cycleDetected then ∃ entry, about = [entry] ∧ w.TellsCycle entry
    else about = []

/-- The checks report a cycle exactly if the search has found one. -/
theorem exists_cycleDetected_iff (w : Workflow) :
    (∃ f ∈ w.validate.result, f.code = .cycleDetected) ↔ w.graph.detectCycle ≠ none := by
  simp only [← mem_under_iff, Checks.under, Checks.cycles]
  cases w.graph.detectCycle with
  | none => simp
  | some cycle => simp

theorem tellsFindings_validate (w : Workflow) :
    w.TellsFindings w.validate.result w.validate.entries := by
  refine ⟨w.logCycle.entries, _, rfl, ⟨rfl, rfl, rfl⟩, ?_⟩
  rw [logCycle]
  cases hcycle : w.graph.detectCycle with
  | none =>
    rw [if_neg (by simp [exists_cycleDetected_iff, hcycle])]
    rfl
  | some cycle =>
    rw [if_pos (by simp [exists_cycleDetected_iff, hcycle])]
    exact ⟨_, rfl, rfl, cycle, rfl, w.stores_graph.closedWalk_of_detectCycle hcycle⟩

/-! ## Simulating -/

/-- An entry tells how a simulation ended: it counts the steps of one that succeeded, and lists
the codes of the findings that block one that was refused. -/
def TellsResult (r : SimulationResult) (entry : Entry) : Prop :=
  entry.level = Level.info ∧
    if r.success then
      entry.message = "Simulation completed" ∧
        entry.context.get? "steps" = some (.nat r.steps.length)
    else
      entry.message = "Simulation refused: workflow has blocking findings" ∧
        entry.context.get? "codes" =
          some (.arr ((r.findings.filter (·.isBlocking)).map fun f => .str f.code.name))

theorem tellsResult_simulateWith (w : Workflow) (findings : List Finding) :
    ∃ entry, (w.simulateWith findings).entries = [entry] ∧
      TellsResult (w.simulateWith findings).result entry := by
  rw [simulateWith]
  dsimp only
  cases (findings.filter (·.isBlocking)).isEmpty with
  | false => exact ⟨_, rfl, rfl, rfl, rfl⟩
  | true => exact ⟨_, rfl, rfl, rfl, rfl⟩

end Workflow

/-- What the engine logs is what it has done.  Loading logs how a load fails and nothing else,
checking logs the cycle it has found and how many findings it returns, and a simulation logs in
one more entry how it ended. -/
theorem entries_tell :
    (∀ source, Document.TellsEnding (Document.outcome source) (Document.load source).entries) ∧
      ∀ d : Document,
        d.workflow.TellsFindings d.workflow.validate.result d.workflow.validate.entries ∧
          ∃ entry, d.workflow.simulate.entries = d.workflow.validate.entries ++ [entry] ∧
            Workflow.TellsResult d.workflow.simulate.result entry := by
  refine ⟨Document.tellsEnding_load, fun d => ⟨d.workflow.tellsFindings_validate, ?_⟩⟩
  obtain ⟨entry, hentries, htells⟩ :=
    d.workflow.tellsResult_simulateWith d.workflow.validate.result
  exact ⟨entry, congrArg (d.workflow.validate.entries ++ ·) hentries, htells⟩

end WorkflowEngine
