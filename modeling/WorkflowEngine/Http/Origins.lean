import WorkflowEngine.Http.Message

/-!
# Cross-origin requests

A request with an origin may come from another site.  Its answer says whether
credentials are allowed, and names the origin if it is an allowed one.  A preflight
request is answered without looking at its path.
-/

namespace WorkflowEngine.Http

/-- The methods that cross-origin requests may use. -/
def allowedMethods : List String :=
  ["DELETE", "GET", "HEAD", "OPTIONS", "PATCH", "POST", "PUT", "QUERY"]

/-- How long a preflight answer holds, in seconds. -/
def preflightAge : String := "600"

/-- Whether every origin is allowed. -/
def allowsAll (origins : List Text) : Bool := origins.contains "*"

def isAllowedOrigin (origins : List Text) (origin : String) : Bool :=
  allowsAll origins || origins.contains origin

def credentialsHeader : String × String := ("access-control-allow-credentials", "true")

/-- The header that names an allowed origin. -/
def originHeader (origin : String) : String × String := ("access-control-allow-origin", origin)

/-- The header in an ordinary answer that names who may read it. -/
def originHeaders (origins : List Text) (r : Request) (origin : String) : Headers :=
  if allowsAll origins then
    [originHeader (if (r.header? "cookie").isSome then origin else "*")]
  else if isAllowedOrigin origins origin then [originHeader origin]
  else []

/-- The answer to a preflight request.  Requests from a public to a private network are
not allowed. -/
def preflight (origins : List Text) (r : Request) (origin method : String) : Response :=
  let originFaults := if isAllowedOrigin origins origin then [] else ["origin"]
  let methodFaults := if allowedMethods.contains method then [] else ["method"]
  let networkFaults :=
    if (r.header? "access-control-request-private-network").isSome then ["private-network"] else []
  let faults := originFaults ++ methodFaults ++ networkFaults
  let headers :=
    [("access-control-allow-methods", Text.join ", " allowedMethods),
      ("access-control-max-age", preflightAge), credentialsHeader] ++
    (if originFaults.isEmpty then [originHeader origin] else []) ++
    match r.header? "access-control-request-headers" with
    | some requested => [("access-control-allow-headers", requested)]
    | none => []
  if faults.isEmpty then .plain 200 "OK" headers
  else .plain 400 ("Disallowed CORS " ++ Text.join ", " faults) headers

end WorkflowEngine.Http
