/-!
# Kinds, severities and codes

The closed vocabularies of workflow documents and of the answers about them, with
the names they have in documents.
-/

namespace WorkflowEngine

/-- What a node of a workflow does. -/
inductive NodeKind where
  | start
  | task
  | approval
  | automatedStep
  | finish
deriving DecidableEq, Inhabited

namespace NodeKind

/-- All kinds, in their customary order. -/
def all : List NodeKind := [.start, .task, .approval, .automatedStep, .finish]

def name : NodeKind → String
  | .start => "start"
  | .task => "task"
  | .approval => "approval"
  | .automatedStep => "automatedStep"
  | .finish => "end"

def ofName? (name : String) : Option NodeKind := all.find? (·.name == name)

/-- The name of a kind as a constant. -/
def label : NodeKind → String
  | .start => "START"
  | .task => "TASK"
  | .approval => "APPROVAL"
  | .automatedStep => "AUTOMATED_STEP"
  | .finish => "END"

end NodeKind

/-- How grave a finding is.  Errors block a simulation and warnings do not. -/
inductive Severity where
  | error
  | warning
deriving DecidableEq, Inhabited

namespace Severity

/-- Both severities. -/
def all : List Severity := [.error, .warning]

def name : Severity → String
  | .error => "error"
  | .warning => "warning"

def ofName? (name : String) : Option Severity := all.find? (·.name == name)

/-- The name of a severity as a constant. -/
def label : Severity → String
  | .error => "ERROR"
  | .warning => "WARNING"

end Severity

/-- The state of a step of a simulation. -/
inductive StepStatus where
  | pending
  | completed
  | failed
deriving DecidableEq, Inhabited

namespace StepStatus

def all : List StepStatus := [.pending, .completed, .failed]

def name : StepStatus → String
  | .pending => "pending"
  | .completed => "completed"
  | .failed => "failed"

/-- The name of a state as a constant. -/
def label : StepStatus → String
  | .pending => "PENDING"
  | .completed => "COMPLETED"
  | .failed => "FAILED"

end StepStatus

/-- What a finding is about. -/
inductive FindingCode where
  | noStartNode
  | cycleDetected
  | endNodeHasOutgoing
  | multipleStartNodes
  | disconnectedNodes
  | incompletePath
deriving DecidableEq, Inhabited

namespace FindingCode

/-- All codes, errors first. -/
def all : List FindingCode :=
  [.noStartNode, .cycleDetected, .endNodeHasOutgoing, .multipleStartNodes, .disconnectedNodes,
    .incompletePath]

def name : FindingCode → String
  | .noStartNode => "NO_START_NODE"
  | .cycleDetected => "CYCLE_DETECTED"
  | .endNodeHasOutgoing => "END_NODE_HAS_OUTGOING"
  | .multipleStartNodes => "MULTIPLE_START_NODES"
  | .disconnectedNodes => "DISCONNECTED_NODES"
  | .incompletePath => "INCOMPLETE_PATH"

def ofName? (name : String) : Option FindingCode := all.find? (·.name == name)

end FindingCode

end WorkflowEngine
