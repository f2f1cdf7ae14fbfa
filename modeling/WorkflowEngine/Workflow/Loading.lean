import WorkflowEngine.Error
import WorkflowEngine.Json.Reader
import WorkflowEngine.Log.Entry
import WorkflowEngine.Text.Encoding
import WorkflowEngine.Workflow.Basic

/-!
# Loading documents

A document is loaded from text or from bytes in three stages: it is read as JSON,
its rough structure is checked, and then its schema.  A failure of any stage is
logged and becomes an error, except that an integer literal with too many digits
stands outside of both.
-/

namespace WorkflowEngine

/-- A line and a column, both counted from one. -/
structure Position where
  line : Nat
  column : Nat
deriving DecidableEq

/-- The position after some elements of a text, of which some are line breaks. -/
def Position.after {α : Type} (isBreak : α → Bool) (before : List α) : Position where
  line := before.countP isBreak + 1
  column := (before.reverse.takeWhile fun x => !isBreak x).length + 1

namespace Document

/-- What a document is loaded from. -/
inductive Source where
  | text (t : Text)
  | bytes (bs : List UInt8)

/-- What the rough structure of a document lacks. -/
inductive StructureFault where
  | notObject
  | nodesMissing
  | edgesMissing
  | nodeIncomplete (index : Nat)
  | edgeIncomplete (index : Nat)
deriving DecidableEq

/-- Why a document cannot be loaded. -/
inductive LoadFailure where
  /-- The text is not JSON. -/
  | notJson (position : Position)
  /-- The bytes spell no text. -/
  | undecodable (position : Position) (encoding : Encoding)
  /-- An integer literal has too many digits. -/
  | tooManyDigits (count : Nat)
  | badStructure (fault : StructureFault)
  | badFields (issues : List Schema.Issue)

/-! ## Reading -/

/-- Where a text stops being JSON. -/
def positionIn (ps : List CodePoint) (offset : Nat) : Position :=
  .after (· == .char '\n') (ps.take offset)

/-- Where a byte stands. -/
def positionInBytes (bs : List UInt8) (offset : Nat) : Position :=
  .after (· == 10) (bs.take offset)

/-- A fault of the JSON text as a failure to load it. -/
def failureOf (ps : List CodePoint) : ReadFault → LoadFailure
  | .malformed offset => .notJson (positionIn ps offset)
  | .tooManyDigits count => .tooManyDigits count

def readSource : Source → Except LoadFailure Json
  | .text t => (Json.read t).mapError (failureOf t.points)
  | .bytes bs =>
    let encoding := Encoding.detect bs
    match encoding.decode bs with
    | .error fault =>
      .error (.undecodable (positionInBytes fault.bytes fault.offset) encoding)
    | .ok ps => (Json.readPoints ps).mapError (failureOf ps)

/-! ## Rough structure -/

/-- The fields without which a node is incomplete. -/
def nodeEssentials : List String := ["id", "type", "position", "data"]

/-- The fields without which an edge is incomplete. -/
def edgeEssentials : List String := ["id", "source", "target"]

/-- Whether a value is an object in which some fields are neither null nor the empty
text. -/
def hasAll (fields : List String) : Json → Bool
  | .obj o => fields.all fun f =>
    match Members.get? o f with
    | none | some .null | some (.str (.proper "")) => false
    | some _ => true
  | _ => false

/-- The index of the first item that lacks a field. -/
def firstIncomplete (fields : List String) (xs : List Json) : Option Nat :=
  xs.findIdx? fun x => !hasAll fields x

/-- The first thing that the rough structure of a value lacks. -/
def structureFault? (j : Json) : Option StructureFault :=
  match j with
  | .obj o =>
    match Members.get? o "nodes" with
    | some (.arr nodes) =>
      match Members.get? o "edges" with
      | some (.arr edges) =>
        match firstIncomplete nodeEssentials nodes with
        | some i => some (.nodeIncomplete i)
        | none => (firstIncomplete edgeEssentials edges).map .edgeIncomplete
      | _ => some .edgesMissing
    | _ => some .nodesMissing
  | _ => some .notObject

namespace StructureFault

/-- What is wrong, in words. -/
def reason : StructureFault → String
  | .notObject => "expected an object"
  | .nodesMissing => "missing or invalid nodes array"
  | .edgesMissing => "missing or invalid edges array"
  | .nodeIncomplete _ => "invalid node structure in workflow"
  | .edgeIncomplete _ => "invalid edge structure in workflow"

/-- Where the element is that lacks a field. -/
def location : StructureFault → List String
  | .nodeIncomplete i => ["nodes", toString i]
  | .edgeIncomplete i => ["edges", toString i]
  | _ => []

end StructureFault

/-! ## Loading -/

/-- Load a document or say why it cannot be loaded. -/
def tryLoad (source : Source) : Except LoadFailure Document :=
  match readSource source with
  | .error failure => .error failure
  | .ok j =>
    match structureFault? j with
    | some fault => .error (.badStructure fault)
    | none => (Document.ofJson j).mapError .badFields

/-- A problem with one part of a document. -/
def problem (location : List String) (message : String) : Json :=
  .obj [("loc", .strings location), ("msg", .str message)]

def problems (issues : List Schema.Issue) : List Json :=
  issues.map fun i => problem (i.path.map (·.text)) i.fault.message

namespace LoadFailure

/-- The reason given when fields do not match. -/
def fieldsReason : String := "node or edge fields do not match the workflow schema"

/-- The error that reports a failure.  Too many digits are not reported as one. -/
def error? : LoadFailure → Option EngineError
  | .notJson p | .undecodable p _ => some (.invalidJson p.line p.column)
  | .tooManyDigits _ => none
  | .badStructure fault =>
    some (.invalidStructure fault.reason
      (match fault.location with
        | [] => []
        | location => [problem location "missing required field"]))
  | .badFields issues => some (.invalidStructure fieldsReason (problems issues))

def logger : String := "hrflow.services.workflow.serializer"

def positionMembers (p : Position) : Members := [("line", .nat p.line), ("column", .nat p.column)]

/-- What is logged about a failure. -/
def log (failure : LoadFailure) : Log.Logged Unit :=
  let warn := Log.Logged.emit logger Log.Level.warning
  match failure with
  | .notJson p => warn "Rejected workflow document: invalid JSON" (positionMembers p)
  | .undecodable p encoding =>
    warn "Rejected workflow document: undecodable bytes"
      (positionMembers p ++ ([("encoding", .str encoding.name)] : Members))
  | .tooManyDigits _ => .quiet ()
  | .badStructure fault =>
    warn "Rejected workflow document: invalid structure" [("reason", .str fault.reason)]
  | .badFields issues =>
    warn "Rejected workflow document: invalid node or edge fields"
      [("errors", .arr (problems issues))]

/-- The message about an integer literal with too many digits. -/
def digitsMessage (count : Nat) : String :=
  "Exceeds the limit (" ++ toString Json.digitLimit ++
    " digits) for integer string conversion: value has " ++ toString count ++
    " digits; use sys.set_int_max_str_digits() to increase the limit"

end LoadFailure

/-- Load a document and log a failure. -/
def load (source : Source) : Log.Logged (Except LoadFailure Document) :=
  match tryLoad source with
  | .ok d => .quiet (.ok d)
  | .error failure => do
    failure.log
    return .error failure

/-! ## Download names -/

/-- The name of a download for which none was asked. -/
def defaultFilename : String := "workflow.json"

/-- A name that ends in `.json`, made from the one that was asked for. -/
def exportFilename : Option String → String
  | none | some "" => defaultFilename
  | some name => if name.endsWith ".json" then name else name ++ ".json"

end Document

end WorkflowEngine
