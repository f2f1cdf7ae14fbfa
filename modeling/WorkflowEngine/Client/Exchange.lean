import WorkflowEngine.Client.Address
import WorkflowEngine.Client.AsciiText
import WorkflowEngine.Http.Service

/-!
# Exchanges

The service is asked by a client, which is no part of it.  The client writes an address,
headers and a body, from which the request is made that the service answers.  Before that it
checks what it sends, and afterwards it reads the address that an answer leads to.  The first
fault stands in place of the answer.  The modules beside this one hold what the client knows
of addresses and of the names of hosts; what the service does begins with a `Request`.
-/

namespace WorkflowEngine.Http

open Log

/-- What a client sends. -/
structure Query where
  method : String
  /-- The address as it is written. -/
  address : String
  /-- Parameters that take the place of the query in the address. -/
  parameters : Option (List (String × String))
  headers : Headers
  body : List UInt8

/-- Why a client has no answer. -/
inductive ExchangeFault where
  | address (fault : AddressFault)
  /-- A text that cannot be sent. -/
  | text (fault : AsciiFault)
  /-- The name of a host that means nothing. -/
  | host (fault : Domain.NameFault)
  /-- The address in a redirection. -/
  | location (fault : AddressFault)
deriving DecidableEq

def ExchangeFault.message : ExchangeFault → String
  | .address fault => fault.message
  | .text fault => fault.message
  | .host fault => fault.message
  | .location fault => "Invalid URL in location header: " ++ fault.message ++ "."

/-- Refuse a text that cannot be sent. -/
def requireSendable (fault : Option AsciiFault) : Except ExchangeFault Unit :=
  match fault with
  | some fault => .error (.text fault)
  | none => .ok ()

namespace Query

/-- The address that is asked. -/
def target (q : Query) : Except ExchangeFault Address := do
  let a ← (Address.readAtService q.address).mapError .address
  requireSendable (headersFault? q.headers)
  match q.parameters with
  | none => return a
  | some pairs =>
    (a.withQuery (if pairs.isEmpty then none else some (queryOfPairs pairs))).mapError .address

/-- The headers that are sent to an address: the host is named first unless the client
names one. -/
def headersFor (q : Query) (a : Address) : Except ExchangeFault Headers := do
  if (q.headers.lookup "host").isSome then return q.headers
  requireSendable (asciiFault? a.hostAndNumber)
  return ("host", a.hostAndNumber) :: q.headers

def request (q : Query) (a : Address) : Except ExchangeFault Request := do
  let host ← a.decodedHost.mapError .host
  let headers ← q.headersFor a
  return {
    method := q.method
    scheme := a.scheme
    host := host
    number := a.number
    path := unescape a.pathOrRoot
    query := a.query.getD ""
    headers := headers
    body := q.body }

end Query

/-- Read the address to which an answer leads a client that asked another one.  The
fragment of that one stays. -/
def checkLocation (asked : Address) (location : String) : Except ExchangeFault Unit := do
  let there ← (Address.read location).mapError .location
  let _ ← there.decodedHost.mapError .host
  let fragment := unescape (asked.fragment.getD "")
  if fragment ≠ "" ∧ there.fragment.getD "" = "" then
    let _ ← (there.withFragment fragment).mapError .address

/-- The status of a redirection that keeps the method. -/
def redirectStatus : Nat := 307

/-- Take an answer for a client that asked an address. -/
def accept (asked : Address) (response : Response) : Except ExchangeFault Response := do
  if response.status = redirectStatus then
    if let some location := response.headers.lookup "location" then
      checkLocation asked location
  return response

/-- Ask the service. -/
def exchange (s : Settings) (q : Query) : Logged (Except ExchangeFault Response) :=
  match q.target with
  | .error fault => .quiet (.error fault)
  | .ok asked =>
    match q.request asked with
    | .error fault => .quiet (.error fault)
    | .ok r => do
      let response ← handle s r
      return accept asked response

end WorkflowEngine.Http
