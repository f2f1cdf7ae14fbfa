import WorkflowEngine.Analysis.Checks

/-!
# Simulation

A simulation replays a workflow without running anything.  It checks the workflow
first and refuses one with blocking findings; otherwise it visits nodes in preorder
from the first start node.  Edges whose ends are not both nodes of the workflow are
left out.
-/

namespace WorkflowEngine

/-- One visited node. -/
structure SimulationStep where
  node : String
  kind : NodeKind
  label : Text
  status : StepStatus
  details : Text
deriving DecidableEq

/-- The outcome of a simulation.  A refused one has no steps and took no time. -/
structure SimulationResult where
  success : Bool
  steps : List SimulationStep
  findings : List Finding
deriving DecidableEq

namespace SimulationStep

/-- The step that visits a node. -/
def visit (n : Node) : SimulationStep where
  node := n.id
  kind := n.kind
  label := n.label
  status := .completed
  details := "Executed " ++ n.kind.name ++ " node: " ++ n.displayName

open Schema in
/-- Steps as objects. -/
def model : Model where
  name := "SimulationStep"
  fields :=
    [.required ⟨"nodeId", "node_id"⟩ (.leaf .text),
      .required ⟨"nodeKind", "node_kind"⟩ (.leaf (.choice (NodeKind.all.map NodeKind.name))),
      .required ⟨"nodeLabel", "node_label"⟩ (.leaf .text),
      .optional (.word "status") (.leaf (.choice (StepStatus.all.map StepStatus.name)))
        (.str StepStatus.completed.name),
      .required (.word "timestamp") (.leaf .instant),
      .optional (.word "details") (.leaf .optionalText) .null]
  keepsExtras := false

/-- A step as a JSON object, the time of the visit left out. -/
def toJson (s : SimulationStep) : Json :=
  .obj
    [("nodeId", .str s.node), ("nodeKind", .str s.kind.name), ("nodeLabel", .str s.label),
      ("status", .str s.status.name), ("details", .str s.details)]

end SimulationStep

namespace SimulationResult

open Schema in
/-- Results as objects. -/
def model : Model where
  name := "SimulationResult"
  fields :=
    [.required (.word "success") (.leaf .flag),
      .optional (.word "steps") (.list SimulationStep.model.shape) (.arr []),
      .optional (.word "findings") (.list Finding.model.shape) (.arr []),
      .optional ⟨"elapsedMs", "elapsed_ms"⟩ (.leaf .duration) (.float (.zero false))]
  keepsExtras := false

/-- A result as a JSON object.  The duration is left out where it was measured. -/
def toJson (r : SimulationResult) : Json :=
  .obj
    (([("success", .bool r.success), ("steps", .arr (r.steps.map SimulationStep.toJson)),
      ("findings", .arr (r.findings.map Finding.toJson))] : Members) ++
    (if r.success then [] else [("elapsedMs", .float (.zero false))] : Members))

end SimulationResult

namespace Workflow

open Log

/-- The nodes of a workflow by their ids; of several with one id the last counts. -/
def nodesById (w : Workflow) : Std.TreeMap NodeId Node :=
  w.nodes.foldl (fun found n => found.insert n.id n) ∅

/-- The graph of a workflow without the edges that have an end outside of it. -/
def innerGraph (w : Workflow) : Graph :=
  let byId := w.nodesById
  .ofLists (w.nodes.map (·.id))
    ((w.edges.filter fun e => byId.contains e.source && byId.contains e.target).map fun e =>
      (e.source, e.target))

/-- The nodes visited by a walk from the first start node. -/
def walk (w : Workflow) : List Node :=
  match w.nodes.find? (·.kind = .start) with
  | none => []
  | some start =>
    let byId := w.nodesById
    (w.innerGraph.preorder start.id).filterMap fun id => byId.get? id

def simulationLogger : String := "hrflow.services.workflow.simulator"

/-- Simulate a workflow for which certain findings hold: refuse it if one of them
blocks, and otherwise walk it. -/
def simulateWith (w : Workflow) (findings : List Finding) : Logged SimulationResult := do
  let blocking := findings.filter (·.isBlocking)
  if !blocking.isEmpty then
    .emit simulationLogger Level.info "Simulation refused: workflow has blocking findings"
      [("action", .str "simulate_workflow"), ("errors", .nat blocking.length),
        ("codes", .arr (blocking.map fun f => .str f.code.name))]
    return ⟨false, [], findings⟩
  else
    let steps := w.walk.map SimulationStep.visit
    .emit simulationLogger Level.info "Simulation completed"
      [("action", .str "simulate_workflow"), ("steps", .nat steps.length),
        ("warnings", .nat findings.length)]
    return ⟨true, steps, findings⟩

/-- Check a workflow and simulate it. -/
def simulate (w : Workflow) : Logged SimulationResult := do
  let findings ← w.validate
  w.simulateWith findings

end Workflow

end WorkflowEngine
