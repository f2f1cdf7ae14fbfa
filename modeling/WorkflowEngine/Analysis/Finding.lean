import WorkflowEngine.Workflow.Shapes

/-!
# Findings and reports

A finding is one remark about a workflow, and a report splits the findings by
severity.  Both are written as JSON objects without the members that have no value,
and both can be read back.
-/

namespace WorkflowEngine

/-- One remark about a workflow.  Without a node and an edge it is about the whole
workflow. -/
structure Finding where
  node : Option Text
  edge : Option Text
  code : FindingCode
  message : Text
  severity : Severity
deriving DecidableEq

namespace Finding

/-- A finding about the whole workflow. -/
def general (code : FindingCode) (severity : Severity) (message : Text) : Finding :=
  ⟨none, none, code, message, severity⟩

/-- A finding about one node. -/
def about (node : Text) (code : FindingCode) (severity : Severity) (message : Text) : Finding :=
  ⟨some node, none, code, message, severity⟩

/-- Whether the finding blocks a simulation. -/
def isBlocking (f : Finding) : Bool := f.severity = .error

open Schema in
/-- Findings as objects. -/
def model : Model where
  name := "ValidationFinding"
  fields :=
    [.optional ⟨"nodeId", "node_id"⟩ (.leaf .optionalText) .null,
      .optional ⟨"edgeId", "edge_id"⟩ (.leaf .optionalText) .null,
      .required (.word "code") (.leaf (.choice (FindingCode.all.map FindingCode.name))),
      .required (.word "message") (.leaf .text),
      .required (.word "severity") (.leaf (.choice (Severity.all.map Severity.name)))]
  keepsExtras := false

/-- A member with a text, and none where there is no text. -/
def textMember (key : String) : Option Text → Members
  | some t => [(key, .str t)]
  | none => []

/-- A finding as a JSON object. -/
def toJson (f : Finding) : Json :=
  .obj (textMember "nodeId" f.node ++ textMember "edgeId" f.edge ++
    ([("code", .str f.code.name), ("message", .str f.message),
      ("severity", .str f.severity.name)] : Members))

/-- The finding in a canonical object. -/
def ofCanonical (j : Json) : Finding where
  node := (j.field "nodeId").text?
  edge := (j.field "edgeId").text?
  code := (FindingCode.ofName? (j.field "code").string).getD default
  message := (j.field "message").text
  severity := (Severity.ofName? (j.field "severity").string).getD default

/-- Read a finding. -/
def ofJson (j : Json) : Schema.Checked Finding := (model.shape.check j).map ofCanonical

end Finding

/-- Findings split by severity. -/
structure Report where
  findings : List Finding
  errors : List Finding
  warnings : List Finding
  isValid : Bool
  hasWarnings : Bool
deriving DecidableEq

namespace Report

/-- Split findings by severity, keeping their order. -/
def ofFindings (findings : List Finding) : Report :=
  let errors := findings.filter (·.isBlocking)
  let warnings := findings.filter (!·.isBlocking)
  ⟨findings, errors, warnings, errors.isEmpty, !warnings.isEmpty⟩

open Schema in
/-- Reports as objects. -/
def model : Model where
  name := "ValidationReport"
  fields :=
    [.optional (.word "findings") (.list Finding.model.shape) (.arr []),
      .optional (.word "errors") (.list Finding.model.shape) (.arr []),
      .optional (.word "warnings") (.list Finding.model.shape) (.arr []),
      .required ⟨"isValid", "is_valid"⟩ (.leaf .flag),
      .optional ⟨"hasWarnings", "has_warnings"⟩ (.leaf .flag) (.bool false)]
  keepsExtras := false

/-- A report as a JSON object. -/
def toJson (r : Report) : Json :=
  .obj
    [("findings", .arr (r.findings.map Finding.toJson)),
      ("errors", .arr (r.errors.map Finding.toJson)),
      ("warnings", .arr (r.warnings.map Finding.toJson)),
      ("isValid", .bool r.isValid), ("hasWarnings", .bool r.hasWarnings)]

/-- The report in a canonical object. -/
def ofCanonical (j : Json) : Report where
  findings := (j.field "findings").items.map Finding.ofCanonical
  errors := (j.field "errors").items.map Finding.ofCanonical
  warnings := (j.field "warnings").items.map Finding.ofCanonical
  isValid := (j.field "isValid").truth
  hasWarnings := (j.field "hasWarnings").truth

/-- Read a report. -/
def ofJson (j : Json) : Schema.Checked Report := (model.shape.check j).map ofCanonical

end Report

end WorkflowEngine
