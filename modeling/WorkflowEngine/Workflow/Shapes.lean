import WorkflowEngine.Schema.Shape
import WorkflowEngine.Workflow.Kind

/-!
# The shapes of workflow documents

A workflow document is an object with a list of nodes and a list of edges.  A node
has a position on the canvas and data whose fields depend on its kind.  All objects
of a document keep the members that are not declared here, so that a document from
a newer designer loses nothing.  Ids of nodes and of edges are unique.
-/

namespace WorkflowEngine.Workflow

open Schema

/-- An open model: members that are not fields are kept. -/
def openModel (name : String) (fields : List Field) : Model := ⟨name, fields, true⟩

/-- An optional text field with an empty default. -/
def textField (name : FieldName) : Field := .optional name (.leaf .text) (.str "")

/-- An optional field that maps keys to texts, empty by default. -/
def mapField (name : FieldName) : Field := .optional name (.leaf .textMap) (.obj [])

/-- The place of a node on the canvas. -/
def positionModel : Model :=
  openModel "Position"
    [.optional (.word "x") (.leaf .number) (.float (.zero false)),
      .optional (.word "y") (.leaf .number) (.float (.zero false))]

/-- The fields of the data of every node: an echo of the node id and the label. -/
def commonFields : List Field :=
  [.optional (.word "id") (.leaf .optionalText) .null, textField (.word "label")]

/-- The fields of the data of one kind of node, the tag left out. -/
def kindFields : NodeKind → List Field
  | .start => [textField (.word "title"), mapField (.word "metadata")]
  | .task =>
    [textField (.word "title"), textField (.word "description"), textField (.word "assignee"),
      textField ⟨"dueDate", "due_date"⟩, mapField ⟨"customFields", "custom_fields"⟩]
  | .approval =>
    [textField (.word "title"), textField ⟨"approverRole", "approver_role"⟩,
      .optional ⟨"autoApproveThreshold", "auto_approve_threshold"⟩ (.leaf .threshold) (.int 0)]
  | .automatedStep =>
    [textField (.word "title"), textField ⟨"actionId", "action_id"⟩,
      textField ⟨"actionLabel", "action_label"⟩, mapField (.word "parameters")]
  | .finish =>
    [textField ⟨"endMessage", "end_message"⟩,
      .optional ⟨"showSummary", "show_summary"⟩ (.leaf .flag) (.bool false)]

def dataModelName : NodeKind → String
  | .start => "StartNodeData"
  | .task => "TaskNodeData"
  | .approval => "ApprovalNodeData"
  | .automatedStep => "AutomatedStepNodeData"
  | .finish => "EndNodeData"

/-- The field that tells the kind. -/
def tagField (k : NodeKind) : Field :=
  .optional (.word "type") (.leaf (.literal k.name)) (.str k.name)

/-- The data of one kind of node. -/
def dataModel (k : NodeKind) : Model :=
  openModel (dataModelName k) (commonFields ++ tagField k :: kindFields k)

/-- The data of a node, its kind told by the member `type`. -/
def dataShape : Shape :=
  .tagged (NodeKind.all.map NodeKind.name) fun tag => (NodeKind.ofName? tag).map dataModel

def nodeModel : Model :=
  openModel "WorkflowNode"
    [.required (.word "id") (.leaf .filledText), .required (.word "type") (.leaf .filledText),
      .required (.word "position") positionModel.shape, .required (.word "data") dataShape]

def edgeModel : Model :=
  openModel "WorkflowEdge"
    [.required (.word "id") (.leaf .filledText), .required (.word "source") (.leaf .filledText),
      .required (.word "target") (.leaf .filledText),
      .optional (.word "type") (.leaf .optionalText) .null]

/-- A document, its ids not yet compared. -/
def graphModel : Model :=
  openModel "WorkflowGraph"
    [.required (.word "nodes") (.list nodeModel.shape),
      .required (.word "edges") (.list edgeModel.shape)]

/-- One step of the search for repetitions: the ids met so far and those met again,
in the order in which they were met again. -/
def noteId (state : List String × List String) (id : String) : List String × List String :=
  let (seen, repeated) := state
  (id :: seen, if seen.contains id ∧ ¬ repeated.contains id then repeated ++ [id] else repeated)

/-- The ids that occur more than once, in the order of their second occurrence. -/
def repeatedIds (ids : List String) : List String := (ids.foldl noteId ([], [])).2

/-- The ids of the elements in a list of a document. -/
def idsIn (document : Json) (list : String) : List String :=
  (document.field list).items.map fun element => (element.field "id").string

/-- Repeated ids, those of nodes before those of edges. -/
def repetition? (document : Json) : Option Fault :=
  let nodes := repeatedIds (idsIn document "nodes")
  let edges := repeatedIds (idsIn document "edges")
  if nodes ≠ [] then some (.repeatedIds .node nodes)
  else if edges ≠ [] then some (.repeatedIds .edge edges)
  else none

/-- Workflow documents. -/
def documentShape : Shape := graphModel.shape.refine repetition?

end WorkflowEngine.Workflow
