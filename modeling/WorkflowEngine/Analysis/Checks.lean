import WorkflowEngine.Analysis.Finding
import WorkflowEngine.Graph.Cycle
import WorkflowEngine.Graph.Traversal
import WorkflowEngine.Log.Entry
import WorkflowEngine.Workflow.Basic

/-!
# The structural checks

Six independent checks of a workflow, whose findings follow each other in a fixed
order: start nodes, several start nodes, cycles, edges out of end nodes,
disconnected nodes and dead ends.  Ends of edges that are no nodes of the workflow
take part in the graph but are never named by a finding.
-/

namespace WorkflowEngine

namespace Workflow

/-- The graph of a workflow: its nodes first, then its edges. -/
def graph (w : Workflow) : Graph :=
  .ofLists (w.nodes.map (·.id)) (w.edges.map fun e => (e.source, e.target))

def idsOfKind (w : Workflow) (k : NodeKind) : List NodeId := (w.ofKind k).map (·.id)

end Workflow

namespace Checks

open Log

/-- A workflow without a start node has nowhere to begin. -/
def startNode (w : Workflow) : List Finding :=
  if (w.ofKind .start).isEmpty then
    [.general .noStartNode .error "Workflow must contain at least one Start Node"]
  else []

/-- Each of several start nodes is reported. -/
def severalStartNodes (w : Workflow) : List Finding :=
  let starts := w.ofKind .start
  if starts.length ≤ 1 then []
  else starts.map fun n =>
    .about n.id .multipleStartNodes .warning
      "Multiple Start Nodes detected. Only one Start Node is recommended"

/-- A cycle is reported once, however many there are. -/
def cycles (g : Graph) : List Finding :=
  match g.detectCycle with
  | some _ =>
    [.general .cycleDetected .error
      "Workflow contains cycles. Cyclic workflows are not supported"]
  | none => []

/-- Each end node that is the source of an edge is reported. -/
def endNodes (w : Workflow) (g : Graph) : List Finding :=
  ((w.ofKind .finish).filter fun n => 0 < g.outDegree n.id).map fun n =>
    .about n.id .endNodeHasOutgoing .error "End Node cannot have outgoing connections"

/-- The nodes that lie on no walk from a start node to an end node. -/
def disconnectedNodes (w : Workflow) (g : Graph) : List Node :=
  let fromStart := g.reachableFrom (w.idsOfKind .start)
  let toEnd := g.reaching (w.idsOfKind .finish)
  w.nodes.filter fun n => !fromStart.contains n.id || !toEnd.contains n.id

/-- Disconnected nodes are named together.  Without a start node nothing is said. -/
def disconnected (w : Workflow) (g : Graph) : List Finding :=
  let names := (disconnectedNodes w g).map Node.displayName
  if (w.ofKind .start).isEmpty ∨ names.isEmpty then []
  else
    [.general .disconnectedNodes .warning
      ("Disconnected nodes detected: " ++ Text.intercalate ", " names)]

/-- Each node but an end node that is the source of no edge is reported. -/
def incompletePaths (w : Workflow) (g : Graph) : List Finding :=
  (w.nodes.filter fun n => n.kind ≠ .finish ∧ g.outDegree n.id = 0).map fun n =>
    .about n.id .incompletePath .warning
      ("Node \"" ++ n.displayName ++ "\" has no outgoing connections and is not an End Node")

end Checks

namespace Workflow

open Log

/-- All findings of a workflow, in the order of the checks. -/
def findings (w : Workflow) : List Finding :=
  let g := w.graph
  Checks.startNode w ++ Checks.severalStartNodes w ++ Checks.cycles g ++ Checks.endNodes w g ++
    Checks.disconnected w g ++ Checks.incompletePaths w g

def checksLogger : String := "hrflow.services.workflow.validator"

/-- What the cycle check logs: the cycle, if there is one. -/
def logCycle (w : Workflow) : Logged Unit :=
  match w.graph.detectCycle with
  | some cycle =>
    .emit checksLogger Level.debug "Cycle detected"
      [("action", .str "validate_workflow"), ("cycle_path", .strings cycle)]
  | none => .quiet ()

/-- Run the checks and log what they found. -/
def validate (w : Workflow) : Logged (List Finding) := do
  let found := w.findings
  logCycle w
  .emit checksLogger Level.debug "Workflow validated"
    [("action", .str "validate_workflow"), ("node_count", .nat w.nodes.length),
      ("edge_count", .nat w.edges.length),
      ("errors", .nat (found.filter (·.isBlocking)).length),
      ("warnings", .nat (found.filter (!·.isBlocking)).length)]
  return found

/-- Run the checks and split their findings. -/
def report (w : Workflow) : Logged Report := do
  let found ← w.validate
  return Report.ofFindings found

end Workflow

end WorkflowEngine
