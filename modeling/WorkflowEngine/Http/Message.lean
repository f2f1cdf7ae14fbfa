import WorkflowEngine.Json.Reader
import WorkflowEngine.Text.Blank
import WorkflowEngine.Text.Encoding

/-!
# Requests and responses

In the path and the query of a request, a percent sign and two hexadecimal digits stand
for a byte, and bytes are read as UTF-8.
-/

namespace WorkflowEngine.Http

/-- Headers with their names in lower case. -/
abbrev Headers := List (String × String)

/-- A request. -/
structure Request where
  method : String
  /-- The scheme of the address that was asked. -/
  scheme : String
  /-- The host of that address. -/
  host : String
  /-- The number behind the host, if it was not the usual one. -/
  number : Option Int
  /-- The path with its escapes resolved. -/
  path : String
  /-- The query as it was sent. -/
  query : String
  headers : Headers
  body : List UInt8

/-- A response. -/
structure Response where
  status : Nat
  headers : Headers
  body : String
deriving DecidableEq

/-! ## Percent encoding -/

/-- The bytes of a text in which escapes stand for bytes.  A percent sign without two
hexadecimal digits stands for itself. -/
def unescapeBytes : List Char → List UInt8
  | [] => []
  | '%' :: a :: b :: rest =>
    match Json.hexValue? a, Json.hexValue? b with
    | some high, some low => UInt8.ofNat (high * 16 + low) :: unescapeBytes rest
    | _, _ => String.utf8EncodeChar '%' ++ unescapeBytes (a :: b :: rest)
  | c :: rest => String.utf8EncodeChar c ++ unescapeBytes rest

/-- A text with its escapes resolved. -/
def unescape (s : String) : String :=
  String.ofList (Utf8.decodeLossy none (unescapeBytes s.toList))

/-- The upper-case hexadecimal digit of a number below sixteen. -/
def upperHexDigit (n : Nat) : Char :=
  if n < 10 then Char.ofNat ('0'.toNat + n) else Char.ofNat ('A'.toNat + (n - 10))

def escapeByte (b : UInt8) : List Char :=
  ['%', upperHexDigit (b.toNat / 16), upperHexDigit (b.toNat % 16)]

/-- Letters, digits and the four marks that are never escaped. -/
def isUnreserved (c : Char) : Bool :=
  c.isAlphanum || c == '_' || c == '.' || c == '-' || c == '~'

/-- A text in which every character is escaped that is neither unreserved nor among
some others. -/
def escapeExcept (others : String) (s : String) : String :=
  String.ofList <| s.toList.flatMap fun c =>
    if isUnreserved c || others.toList.contains c then [c]
    else (String.utf8EncodeChar c).flatMap escapeByte

/-! ## Queries -/

/-- The pairs of a query, with escapes resolved and a plus sign for a blank. -/
def queryPairs (query : String) : List (String × String) :=
  let resolve := fun (cs : List Char) =>
    unescape (String.ofList (cs.map fun c => if c = '+' then ' ' else c))
  ((Text.splitAt '&' query.toList).filter (!·.isEmpty)).map fun part =>
    let name := part.takeWhile (· != '=')
    (resolve name, resolve (part.drop (name.length + 1)))

/-- A query that spells some pairs. -/
def queryOfPairs (pairs : List (String × String)) : String :=
  let spell := fun (s : String) =>
    String.ofList ((escapeExcept " " s).toList.map fun c => if c = ' ' then '+' else c)
  Text.join "&" (pairs.map fun (name, value) => spell name ++ "=" ++ spell value)

namespace Request

/-- The value of a header. -/
def header? (r : Request) (name : String) : Option String := r.headers.lookup name

/-- The last value of a query parameter. -/
def parameter? (r : Request) (name : String) : Option String :=
  (queryPairs r.query).reverse.lookup name

end Request

namespace Response

/-- The type of JSON content. -/
def jsonType : String := "application/json"

def textType : String := "text/plain; charset=utf-8"

def json (status : Nat) (text : String) (headers : Headers) : Response :=
  ⟨status, ("content-type", jsonType) :: headers, text⟩

def plain (status : Nat) (text : String) (headers : Headers) : Response :=
  ⟨status, ("content-type", textType) :: headers, text⟩

/-- The answer to a request whose handling broke off. -/
def broken : Response := plain 500 "Internal Server Error" []

end Response

end WorkflowEngine.Http
