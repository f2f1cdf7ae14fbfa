import WorkflowEngine.Http.IpAddress
import WorkflowEngine.Http.Message

/-!
# Where the service was asked

The service names itself as the host header does, if that holds a host.  Otherwise it goes
by the address of the request.
-/

namespace WorkflowEngine.Http

/-! ## Hosts in headers -/

/-- Characters that a host header holds besides letters and digits. -/
def hostHeaderMarks : String := "-._~!$&'()*+,;="

/-- Whether a character may stand in a host header. -/
def isHostChar (c : Char) : Bool := c.isAlphanum || hostHeaderMarks.toList.contains c

/-- Whether a text that stands in brackets is the address of a later version: the letter v,
its hexadecimal number, a point, and what the version lays down. -/
def isLaterAddress (cs : List Char) : Bool :=
  match cs with
  | 'v' :: rest =>
    let version := rest.takeWhile fun c => (Json.hexValue? c).isSome
    match rest.drop version.length with
    | '.' :: address =>
      !version.isEmpty && !address.isEmpty && address.all fun c => isHostChar c || c == ':'
    | _ => false
  | _ => false

/-- What follows a host at the front of a text, if there is one: an address in brackets,
which names no zone, or a name, in which percent signs stand anywhere. -/
def behindHost? : List Char → Option (List Char)
  | '[' :: rest =>
    let inside := rest.takeWhile (· != ']')
    match rest.drop inside.length with
    | _ :: behind => if isLaterAddress inside || isIpv6 inside then some behind else none
    | [] => none
  | cs =>
    let name := cs.takeWhile fun c => isHostChar c || c == '%'
    if name.isEmpty then none else some (cs.drop name.length)

/-- The greatest number that a host header holds. -/
def greatestNumber : Nat := 65535

/-- Whether a text is a host, perhaps with a colon and a number behind it. -/
def isHost (cs : List Char) : Bool :=
  match behindHost? cs with
  | some [] => true
  | some (':' :: digits) =>
    !digits.isEmpty && digits.all Json.isDigit && Json.natOfDigits digits ≤ greatestNumber
  | _ => false

/-! ## Requests -/

namespace Request

/-- The number at which the service is usually asked under a scheme. -/
def usualNumber? (scheme : String) : Option Int :=
  [("http", 80), ("https", 443), ("ws", 80), ("wss", 443)].lookup scheme

/-- The host by which the service goes under a scheme if no header tells another.  A number
that is not known is shown as `None`. -/
def ownHost? (r : Request) : Option String :=
  (usualNumber? r.scheme).map fun usual =>
    bracketed r.host ++
      match r.number with
      | none => ":None"
      | some n => if n = usual then "" else ":" ++ toString n

/-- The host by which the service goes. -/
def siteHost? (r : Request) : Option String :=
  match r.header? "host" with
  | some host => if isHost host.toList then some host else r.ownHost?
  | none => r.ownHost?

/-- The scheme and the host at which the service was asked.  There is no answer if no host
is named and the scheme is not one of the service. -/
def site? (r : Request) : Option String := r.siteHost?.map fun host => r.scheme ++ "://" ++ host

end Request

end WorkflowEngine.Http
