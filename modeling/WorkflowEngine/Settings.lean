import WorkflowEngine.Error
import WorkflowEngine.Json.Reader
import WorkflowEngine.Schema.Shape
import WorkflowEngine.Workflow.Basic

/-!
# Settings

The settings of the service come from arguments and from environment variables;
arguments win.  The list of allowed origins may be given as one text with commas.
In the environment that setting is JSON text, so a plain list of origins with commas
is refused there.
-/

namespace WorkflowEngine

/-- The settings of the service. -/
structure Settings where
  projectName : String
  version : String
  debug : Bool
  apiPrefix : String
  allowedOrigins : List Text
  maxNodes : Int
  maxEdges : Int
  logLevel : String
  logFile : Option String
  logJson : Bool
deriving DecidableEq

/-- Why settings cannot be built. -/
inductive SettingsFailure where
  /-- An environment variable that has to be JSON is not. -/
  | unreadable (name : String)
  /-- Values miss their schema. -/
  | badValues (issues : List Schema.Issue)

namespace Settings

open Schema

/-- The origins allowed by default. -/
def defaultOrigins : List Text := ["http://localhost:5173"]

/-- The name of the setting that lists the allowed origins. -/
def originsName : String := "ALLOWED_ORIGINS"

/-- The origins in a text: its parts between commas, trimmed, the empty ones left
out. -/
def splitOrigins (t : Text) : List Text :=
  let originIn := fun (part : List CodePoint) =>
    Text.ofPoints (Text.trim (·.satisfies Text.isSpacing) part)
  ((Text.splitAt (.char ',') t.points).map originIn).filter (· ≠ "")

/-- The value of the origins setting as a list; what is neither a text nor a list
stands for the default. -/
def parseOrigins : Json → Json
  | .str t => .arr ((splitOrigins t).map .str)
  | .arr xs => .arr xs
  | _ => .arr (defaultOrigins.map .str)

/-- Settings as an object. -/
def model : Model where
  name := "Settings"
  fields :=
    [.optional (.word "PROJECT_NAME") (.leaf .text) (.str "HR Workflow Engine"),
      .optional (.word "VERSION") (.leaf .text) (.str "0.1.0"),
      .optional (.word "DEBUG") (.leaf .flag) (.bool false),
      .optional (.word "API_V1_PREFIX") (.leaf .text) (.str "/api/v1"),
      .optional (.word originsName) (.leaf .textList) (.arr (defaultOrigins.map .str)),
      .optional (.word "MAX_GRAPH_NODES") (.leaf .integer) (.int 1000),
      .optional (.word "MAX_GRAPH_EDGES") (.leaf .integer) (.int 5000),
      .optional (.word "LOG_LEVEL") (.leaf .text) (.str "INFO"),
      .optional (.word "LOG_FILE") (.leaf .optionalText) .null,
      .optional (.word "LOG_JSON_FORMAT") (.leaf .flag) (.bool true)]
  keepsExtras := false

/-- The settings in a complete canonical object. -/
def ofComplete (j : Json) : Settings where
  projectName := (j.field "PROJECT_NAME").string
  version := (j.field "VERSION").string
  debug := (j.field "DEBUG").truth
  apiPrefix := (j.field "API_V1_PREFIX").string
  allowedOrigins := (j.field originsName).items.map Json.text
  maxNodes := (j.field "MAX_GRAPH_NODES").integer
  maxEdges := (j.field "MAX_GRAPH_EDGES").integer
  logLevel := (j.field "LOG_LEVEL").string
  logFile := (j.field "LOG_FILE").text?.map Text.lossy
  logJson := (j.field "LOG_JSON_FORMAT").truth

/-- All settings as an object. -/
def toJson (s : Settings) : Json :=
  .obj
    [("PROJECT_NAME", .str s.projectName), ("VERSION", .str s.version), ("DEBUG", .bool s.debug),
      ("API_V1_PREFIX", .str s.apiPrefix),
      (originsName, .arr (s.allowedOrigins.map .str)), ("MAX_GRAPH_NODES", .int s.maxNodes),
      ("MAX_GRAPH_EDGES", .int s.maxEdges), ("LOG_LEVEL", .str s.logLevel),
      ("LOG_FILE", .ofString? s.logFile), ("LOG_JSON_FORMAT", .bool s.logJson)]

/-- Settings from values, the others at their defaults. -/
def ofValues (values : Members) : Checked Settings :=
  let parsed := values.map fun (name, v) => (name, if name = originsName then parseOrigins v else v)
  (model.checkMembers parsed).map fun o => ofComplete (.obj (model.completeMembers o))

/-- The settings without any values given. -/
def defaults : Settings := ofComplete (.obj (model.completeMembers []))

/-- The value given by an environment variable. -/
def ofVariable (name value : String) : Except SettingsFailure Json :=
  if name = originsName then (Json.read value).mapError fun _ => .unreadable name
  else .ok (.str value)

/-- Settings from arguments and environment variables; arguments win. -/
def build (args : Members) (env : List (String × String)) : Except SettingsFailure Settings := do
  let fromEnv ← env.mapM fun (name, value) => do return (name, ← ofVariable name value)
  (ofValues (Members.merge fromEnv args)).mapError .badValues

end Settings

/-! ## Limits -/

namespace Document

/-- Refuse a document with more nodes or edges than the settings allow. -/
def checkSize (s : Settings) (d : Document) : Except EngineError Unit :=
  if s.maxNodes < d.nodes.length then
    .error (.graphTooLarge d.nodes.length s.maxNodes "nodes")
  else if s.maxEdges < d.edges.length then
    .error (.graphTooLarge d.edges.length s.maxEdges "edges")
  else .ok ()

end Document

end WorkflowEngine
