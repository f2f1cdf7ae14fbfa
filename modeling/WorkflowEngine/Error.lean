import WorkflowEngine.Schema.Shape

/-!
# Errors of the engine

The errors that are reported to callers.  Each has a message, a code and details,
and the envelope puts the three into one JSON object.
-/

namespace WorkflowEngine

/-- An error that is reported to the caller. -/
inductive EngineError where
  /-- An error described by its parts. -/
  | described (message : String) (code : String) (details : Members)
  /-- A document is not JSON. -/
  | invalidJson (line column : Int)
  /-- A document is JSON but no workflow. -/
  | invalidStructure (reason : String) (problems : List Json)
  /-- A workflow has more elements than allowed. -/
  | graphTooLarge (current limit : Int) (metric : String)
  /-- There is no action with the id. -/
  | actionNotFound (id : String)
deriving DecidableEq

namespace EngineError

def message : EngineError → String
  | .described message _ _ => message
  | .invalidJson _ _ => "Invalid JSON format"
  | .invalidStructure reason _ => "Invalid workflow format: " ++ reason
  | .graphTooLarge current limit metric =>
    "Graph too large: " ++ toString current ++ " " ++ metric ++ " (limit: " ++ toString limit ++ ")"
  | .actionNotFound id => "Automated action '" ++ id ++ "' not found"

def code : EngineError → String
  | .described _ code _ => code
  | .invalidJson _ _ => "INVALID_JSON"
  | .invalidStructure _ _ => "INVALID_WORKFLOW_STRUCTURE"
  | .graphTooLarge _ _ _ => "GRAPH_TOO_LARGE"
  | .actionNotFound _ => "AUTOMATION_NOT_FOUND"

/-- The code of an error that was given none. -/
def defaultCode : String := "APP_ERROR"

def details : EngineError → Members
  | .described _ _ details => details
  | .invalidJson line column => [("line", .int line), ("column", .int column)]
  | .invalidStructure reason problems =>
    ("reason", .str reason) :: if problems.isEmpty then [] else [("errors", .arr problems)]
  | .graphTooLarge current limit metric =>
    [("current", .int current), ("limit", .int limit), ("metric", .str metric)]
  | .actionNotFound id => [("action_id", .str id)]

/-- The error as one JSON object; empty details are null. -/
def envelope (e : EngineError) : Json :=
  .obj
    [("error", .str e.code), ("message", .str e.message),
      ("details", if e.details.isEmpty then .null else .obj e.details)]

open Schema in
/-- Envelopes as objects. -/
def envelopeModel : Model where
  name := "ErrorResponse"
  fields :=
    [.required (.word "error") (.leaf .text), .required (.word "message") (.leaf .text),
      .optional (.word "details") (.leaf .optionalMap) .null]
  keepsExtras := false

end EngineError

end WorkflowEngine
