import WorkflowEngine.Http.Message
import WorkflowEngine.Settings

/-!
# Routes

The endpoints of the service, each with its method, its path and its documentation.
A path that no route has may still be a route's path with or without a slash at its
end, and is then redirected.
-/

namespace WorkflowEngine.Http

/-- What a route does. -/
inductive Endpoint where
  | importDocument
  | exportDocument
  | listActions
  | getAction
  | simulate
  | validate
  | status
  | health
  | root
deriving DecidableEq

namespace Endpoint

/-- All endpoints in the order in which their routes are tried. -/
def all : List Endpoint :=
  [.importDocument, .exportDocument, .listActions, .getAction, .simulate, .validate, .status,
    .health, .root]

def method : Endpoint → String
  | .importDocument | .exportDocument | .simulate | .validate => "POST"
  | .listActions | .getAction | .status | .health | .root => "GET"

/-- The path of an endpoint.  A versioned one lies below the version's path. -/
def path (apiPath : String) : Endpoint → String
  | .importDocument => apiPath ++ "/workflows/import"
  | .exportDocument => apiPath ++ "/workflows/export"
  | .listActions => apiPath ++ "/automations/"
  | .getAction => apiPath ++ "/automations/\x7baction_id\x7d"
  | .simulate => apiPath ++ "/simulate"
  | .validate => apiPath ++ "/validation/validate"
  | .status => apiPath ++ "/status"
  | .health => "/health"
  | .root => "/"

def tags : Endpoint → List String
  | .importDocument | .exportDocument => ["v1", "Workflows"]
  | .listActions | .getAction => ["v1", "Automations"]
  | .simulate => ["v1", "Simulation"]
  | .validate => ["v1", "Validation"]
  | .status => ["v1", "Status"]
  | .health => ["Health"]
  | .root => ["Root"]

/-- A short description of an endpoint. -/
def summary : Endpoint → String
  | .importDocument => "Import workflow document"
  | .exportDocument => "Export workflow document"
  | .listActions => "List automated actions"
  | .getAction => "Get automated action"
  | .simulate => "Simulate Workflow"
  | .validate => "Validate Workflow Graph"
  | .status => "Api Status"
  | .health => "Health Check"
  | .root => "Root"

/-- The documented status codes of an endpoint. -/
def statusCodes : Endpoint → List String
  | .importDocument => ["200", "400"]
  | .exportDocument | .simulate | .validate => ["200", "400", "422"]
  | .getAction => ["200", "404", "422"]
  | .listActions | .status | .health | .root => ["200"]

/-- The action id in a path below the list of actions: one step that is not empty. -/
def actionId? (apiPath path : String) : Option String :=
  let start := Endpoint.listActions.path apiPath
  let step := path.toList.drop start.length
  if start.toList.isPrefixOf path.toList ∧ step ≠ [] ∧ ¬ step.contains '/' then
    some (String.ofList step)
  else none

/-- Whether a path belongs to an endpoint: it is the endpoint's own path, perhaps with a
line feed behind it. -/
def owns (apiPath : String) (e : Endpoint) (path : String) : Bool :=
  match e with
  | .getAction => (actionId? apiPath path).isSome
  | e => path == e.path apiPath || path == e.path apiPath ++ "\n"

end Endpoint

/-- Where a request leads. -/
inductive Destination where
  | endpoint (e : Endpoint)
  /-- The path exists, but not for the method. -/
  | wrongMethod (allowed : String)
  /-- The path exists with or without a slash at its end. -/
  | elsewhere (path : String)
  | nowhere

/-- The path with a slash at its end taken away or put there. -/
def slashVariant (path : String) : String :=
  if path.endsWith "/" then String.ofList (path.toList.reverse.dropWhile (· == '/')).reverse
  else path ++ "/"

/-- Find where a method and a path lead. -/
def route (apiPath method path : String) : Destination :=
  let owners := Endpoint.all.filter (·.owns apiPath path)
  match owners.find? (·.method == method), owners.head? with
  | some e, _ => .endpoint e
  | none, some e => .wrongMethod e.method
  | none, none =>
    let variant := slashVariant path
    if path ≠ "/" ∧ Endpoint.all.any (·.owns apiPath variant) then .elsewhere variant
    else .nowhere

end WorkflowEngine.Http
