import WorkflowEngine.Automation
import WorkflowEngine.Http.Origins
import WorkflowEngine.Http.Route
import WorkflowEngine.Http.Site
import WorkflowEngine.Json.Writer
import WorkflowEngine.Simulation
import WorkflowEngine.Workflow.Loading

/-!
# The service

The service answers one request at a time and keeps no state.  An answer comes with
the entries that were logged while the request was handled.  Import and simulation
run inside a scope that names the action and the path of the request.
-/

namespace WorkflowEngine.Http

open Log

/-! ## Answers -/

/-- The answer that holds a value.  Handling breaks off at a text that is no string, since
it cannot be encoded. -/
def answer (status : Nat) (j : Json) : Response :=
  if j.isProper then .json status j.compact [] else .broken

/-- An answer that explains a refusal. -/
def refusal (status : Nat) (detail : Json) : Response := answer status (.obj [("detail", detail)])

/-- The answer that reports an error. -/
def errorAnswer (status : Nat) (e : EngineError) : Response := refusal status e.envelope

/-- The status of an answer to a request that cannot be served. -/
def badRequest : Nat := 400

/-- One entry of an answer about an invalid request. -/
def detailEntry (code : String) (location : List Json) (message : String) : Json :=
  .obj [("type", .str code), ("loc", .arr location), ("msg", .str message)]

/-- The answer about a body with issues. -/
def invalidBody (issues : List Schema.Issue) : Response :=
  refusal 422 <| .arr <| issues.map fun i =>
    detailEntry i.fault.code (.str "body" :: i.path.map (·.json)) i.fault.message

/-- The value that a path leads to, as far as it leads. -/
def valueAt : List Schema.PathStep → Json → Json
  | [], j => j
  | .alternative _ :: rest, j => valueAt rest j
  | .key name :: rest, j => valueAt rest ((Members.get? j.members name).getD j)
  | .index i :: rest, j => valueAt rest (j.items[i]?.getD j)

/-- Whether a value can be quoted in an answer: its numbers are finite and its texts are
strings. -/
def isQuotable (j : Json) : Bool := j.isFinite && j.isProper

/-- The answer about a document with issues.  It quotes the values that have them, and
breaks off if one of them cannot be quoted. -/
def invalidDocument (source : Json) (issues : List Schema.Issue) : Response :=
  if issues.all fun i => isQuotable (valueAt i.path source) then invalidBody issues else .broken

/-! ## Bodies -/

/-- Whether a content type is a type of JSON: the word before a semicolon, in any case,
has the subtype `json` or one that ends in `+json`. -/
def isJsonType (contentType : String) : Bool :=
  let word := Text.trim Text.isSpacing (contentType.toList.takeWhile (· != ';'))
  match (Text.splitAt '/' (word.map Char.toLower)).map String.ofList with
  | [main, sub] => main == "application" && (sub == "json" || sub.endsWith "+json")
  | _ => false

/-- The answer to a body that is not of a JSON type.  It quotes the body, and breaks off
if the body is no text. -/
def untypedBody (body : List UInt8) : Response :=
  if body.toByteArray.validateUTF8 then invalidBody [.here .notObject] else .broken

/-- The value in a body, or the answer to a body that holds none. -/
def readBody (r : Request) : Except Response Json :=
  if r.body.isEmpty then .error (invalidBody [.here .missing])
  else if !((r.header? "content-type").map isJsonType).getD false then
    .error (untypedBody r.body)
  else
    let encoding := Encoding.detect r.body
    let unparsed := refusal badRequest (.str "There was an error parsing the body")
    match encoding.decode r.body with
    | .error _ => .error unparsed
    | .ok ps =>
      match Json.readPoints ps with
      | .ok j => .ok j
      | .error (.malformed position) =>
        .error <| refusal 422 <| .arr
          [detailEntry "json_invalid" [.str "body", .nat position] "JSON decode error"]
      | .error (.tooManyDigits _) => .error unparsed

/-- The document in a body, or the answer to a body that holds none. -/
def readDocument (r : Request) : Except Response Document :=
  match readBody r with
  | .error response => .error response
  | .ok j => (Document.ofJson j).mapError (invalidDocument j)

/-! ## Engines -/

/-- What the endpoints do with documents: check them, simulate them and write them. -/
structure Engine where
  report : Workflow → Logged Report
  simulate : Workflow → Logged SimulationResult
  /-- A document that cannot be written has no text. -/
  write : Document → Option String

/-- The engine of the service. -/
def Engine.standard : Engine := ⟨Workflow.report, Workflow.simulate, Document.save?⟩

/-! ## Endpoints -/

/-- A path on one line. -/
def onOneLine (path : String) : String := String.ofList (path.toList.filter (· != '\n'))

/-- The name under which a scope shows the path of a request. -/
def pathKey : String := "request_path"

/-- The scope of a request; it shows the path on one line. -/
def requestScope (action : String) (r : Request) : Members :=
  [("action", .str action), (pathKey, .str (onOneLine r.path))]

/-- Handle a request inside its scope.  Handling breaks off if it is not known where the
service was asked. -/
def withinScope (action : String) (r : Request) (m : Logged Response) : Logged Response :=
  if r.site?.isSome then Logged.within (requestScope action r) m else .quiet .broken

/-- Check a document and report what was found. -/
def validate (engine : Engine) (s : Settings) (r : Request) : Logged Response :=
  match readDocument r with
  | .error response => .quiet response
  | .ok d =>
    match d.checkSize s with
    | .error e => .quiet (errorAnswer badRequest e)
    | .ok () => do
      let report ← engine.report d.workflow
      return answer 200 report.toJson

/-- The logger of the simulation endpoint. -/
def simulateLogger : String := "hrflow.api.v1.simulation"

/-- The action of a simulation in its scope. -/
def simulateAction : String := "simulate_workflow"

/-- Simulate a document. -/
def simulateDocument (engine : Engine) (s : Settings) (d : Document) : Logged Response :=
  match d.checkSize s with
  | .error e => do
    .emit simulateLogger Level.warning "Simulation request rejected" e.details
    return errorAnswer badRequest e
  | .ok () => do
    let result ← engine.simulate d.workflow
    return answer 200 result.toJson

/-- Simulate the document in a body. -/
def simulate (engine : Engine) (s : Settings) (r : Request) : Logged Response :=
  match readDocument r with
  | .error response => .quiet response
  | .ok d => withinScope simulateAction r (simulateDocument engine s d)

/-- The header that names a download. -/
def attachment (filename : String) : String := "attachment; filename=\"" ++ filename ++ "\""

/-- Whether a header value can be sent: its characters lie in Latin-1. -/
def isSendable (value : String) : Bool := value.toList.all fun c => c.toNat < 0x100

/-- Send a document back as a download.  Handling breaks off if it cannot be written. -/
def exportDocument (engine : Engine) (s : Settings) (r : Request) : Logged Response :=
  match readDocument r with
  | .error response => .quiet response
  | .ok d =>
    match d.checkSize s with
    | .error e => .quiet (errorAnswer badRequest e)
    | .ok () =>
      let disposition := attachment (Document.exportFilename (r.parameter? "filename"))
      match engine.write d with
      | some text =>
        if isSendable disposition then
          .quiet (.json 200 text [("content-disposition", disposition)])
        else .quiet .broken
      | none => .quiet .broken

/-- The logger of the import endpoint. -/
def importLogger : String := "hrflow.api.v1.workflows"

/-- The action of an import in its scope. -/
def importAction : String := "import_workflow"

/-- Load a document from a body and send it back. -/
abbrev importBody (s : Settings) (body : List UInt8) : Logged Response := do
  match ← Document.load (.bytes body) with
  | .error failure =>
    return match failure.error? with
      | some e => errorAnswer badRequest e
      | none => .broken
  | .ok d =>
    match d.checkSize s with
    | .error e => return errorAnswer badRequest e
    | .ok () =>
      .emit importLogger Level.info "Workflow imported"
        [("node_count", .nat d.nodes.length), ("edge_count", .nat d.edges.length)]
      return answer 200 d.content

/-- Import the document in the body of a request. -/
def importDocument (s : Settings) (r : Request) : Logged Response :=
  withinScope importAction r (importBody s r.body)

/-- Look up an action. -/
def getAction (s : Settings) (r : Request) : Response :=
  let id := (Endpoint.actionId? s.apiPrefix r.path).getD ""
  match Catalogue.standard.get id with
  | .ok action => answer 200 action.toJson
  | .error e => errorAnswer 404 e

def serve (engine : Engine) (s : Settings) (r : Request) : Endpoint → Logged Response
  | .validate => validate engine s r
  | .simulate => simulate engine s r
  | .exportDocument => exportDocument engine s r
  | .importDocument => importDocument s r
  | .listActions =>
    .quiet (answer 200 (.arr (Catalogue.standard.actions.map AutomatedAction.toJson)))
  | .getAction => .quiet (getAction s r)
  | .status => .quiet (answer 200 (.obj [("status", .str "ok"), ("version", .str "v1")]))
  | .health => .quiet (answer 200 (.obj [("status", .str "healthy")]))
  | .root =>
    .quiet <| answer 200 <| .obj
      [("name", .str s.projectName), ("version", .str s.version), ("docs", .str "/docs")]

/-! ## Requests -/

/-- Characters that the address in a redirection keeps as they are. -/
def locationMarks : String := ":/%=@[]!$&'()*+,;"

/-- Characters that the query in it keeps as they are. -/
def locationQueryMarks : String := locationMarks ++ "?#"

/-- The answer that leads to another path with the same query, at the place where the
service was asked.  Handling breaks off if that is not known. -/
def redirection (r : Request) (path : String) : Response :=
  match r.site? with
  | none => .broken
  | some site =>
    let query := if r.query = "" then "" else "?" ++ escapeExcept locationQueryMarks r.query
    ⟨307, [("location", escapeExcept locationMarks (site ++ path) ++ query)], ""⟩

/-- Answer a request that is no preflight request, without regard to its origin. -/
def dispatch (engine : Engine) (s : Settings) (r : Request) : Logged Response :=
  match route s.apiPrefix r.method r.path with
  | .endpoint e => serve engine s r e
  | .wrongMethod allowed =>
    .quiet { refusal 405 (.str "Method Not Allowed") with
      headers := [("content-type", Response.jsonType), ("allow", allowed)] }
  | .elsewhere path => .quiet (redirection r path)
  | .nowhere => .quiet (refusal 404 (.str "Not Found"))

/-- Add the headers for another origin to an answer, unless handling broke off. -/
def withOrigin (s : Settings) (r : Request) (response : Response) : Response :=
  match r.header? "origin" with
  | none => response
  | some origin =>
    if response.status = 500 then response
    else
      { response with
        headers :=
          response.headers ++ credentialsHeader :: originHeaders s.allowedOrigins r origin }

/-- The method of preflight requests. -/
def preflightMethod : String := "OPTIONS"

/-- The answer to a request if it is a preflight request. -/
def preflight? (s : Settings) (r : Request) : Option Response :=
  match r.header? "origin", r.header? "access-control-request-method" with
  | some origin, some method =>
    if r.method = preflightMethod then some (preflight s.allowedOrigins r origin method) else none
  | _, _ => none

/-- The method that asks for an answer without its body. -/
def bodilessMethod : String := "HEAD"

/-- Make an answer fit for the origin and the method of its request. -/
def complete (s : Settings) (r : Request) (response : Response) : Response :=
  let response := withOrigin s r response
  if r.method = bodilessMethod then { response with body := "" } else response

/-- Answer a request with an engine. -/
def handleWith (engine : Engine) (s : Settings) (r : Request) : Logged Response :=
  match preflight? s r with
  | some response => .quiet response
  | none => do
    let response ← dispatch engine s r
    return complete s r response

/-- Answer a request. -/
def handle (s : Settings) (r : Request) : Logged Response := handleWith .standard s r

/-! ## Start and end -/

def serviceLogger : String := "hrflow.main"

/-- Announce the start of the service. -/
def start (s : Settings) : Logged Unit :=
  .emit serviceLogger Level.info ("Starting " ++ s.projectName)
    [("action", .str "application_startup"), ("version", .str s.version),
      ("debug", .bool s.debug), ("log_level", .str s.logLevel),
      ("max_graph_nodes", .int s.maxNodes), ("max_graph_edges", .int s.maxEdges)]

/-- Announce the end of the service. -/
def stop (s : Settings) : Logged Unit :=
  .emit serviceLogger Level.info ("Shutting down " ++ s.projectName)
    [("action", .str "application_shutdown")]

end WorkflowEngine.Http
