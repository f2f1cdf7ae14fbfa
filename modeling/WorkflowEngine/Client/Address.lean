import WorkflowEngine.Client.Digit
import WorkflowEngine.Client.Domain.Name
import WorkflowEngine.Client.Lower
import WorkflowEngine.Http.IpAddress
import WorkflowEngine.Http.Message

/-!
# Addresses

Addresses as the client reads them before it asks the service.  An address has a scheme, an
authority that names a host, a path, a query and a fragment, of which any may be missing.
When it is read, its host is brought into ASCII, its path is followed step by step, so that
no steps of points are left, and characters that may not stand in it are escaped.  A part of
an address that has been read can be exchanged; the whole is then read again.
-/

namespace WorkflowEngine.Http

/-- Why a text is no address. -/
inductive AddressFault where
  | tooLong
  | partTooLong (part : String)
  /-- A control character of ASCII. -/
  | unprintable (c : Char) (position : Nat)
  | unprintableIn (part : String) (c : Char) (position : Nat)
  /-- A host like four numbers that is none. -/
  | badIpv4 (host : String)
  /-- A host in brackets that is not made of eight groups. -/
  | badIpv6 (host : String)
  /-- A host outside ASCII that is no domain name. -/
  | badName (host : String)
  /-- A host outside ASCII with a character without a name before a joiner. -/
  | nameless
  | badNumber (text : String)
  /-- A path that begins with two slashes or a colon. -/
  | badStart (start : String)
deriving DecidableEq

/-- A text in quotes. -/
def shownText (s : String) : String := String.ofList (Json.displayQuoted s)

def AddressFault.message : AddressFault → String
  | .tooLong => "URL too long"
  | .partTooLong part => "URL component " ++ shownText part ++ " too long"
  | .unprintable c position =>
    "Invalid non-printable ASCII character in URL, " ++ shownText (String.singleton c) ++
      " at position " ++ toString position ++ "."
  | .unprintableIn part c position =>
    "Invalid non-printable ASCII character in URL " ++ part ++ " component, " ++
      shownText (String.singleton c) ++ " at position " ++ toString position ++ "."
  | .badIpv4 host => "Invalid IPv4 address: " ++ shownText host
  | .badIpv6 host => "Invalid IPv6 address: " ++ shownText host
  | .badName host => "Invalid IDNA hostname: " ++ shownText host
  | .nameless => Domain.LabelFault.nameless.message
  | .badNumber text => "Invalid port: " ++ shownText text
  | .badStart start => "Relative URLs cannot have a path starting with " ++ shownText start

/-- An address that has been read. -/
structure Address where
  /-- The scheme in small letters. -/
  scheme : String
  /-- The name of a user with its escapes. -/
  user : String
  /-- The host in ASCII, without brackets. -/
  host : String
  /-- The number behind the host, if it is not the usual one. -/
  number : Option Int
  /-- The path with its escapes. -/
  path : String
  /-- The query with its escapes. -/
  query : Option String
  /-- The fragment with its escapes. -/
  fragment : Option String
deriving DecidableEq

namespace Address

/-! ## Parts -/

/-- The parts of an address as they are written. -/
structure Parts where
  scheme : List Char
  authority : List Char
  path : List Char
  query : Option (List Char)
  fragment : Option (List Char)

/-- Take a scheme and the colon behind it off the front. -/
def takeScheme (cs : List Char) : List Char × List Char :=
  let name := cs.takeWhile fun c => c.isAlphanum || c == '+' || c == '.' || c == '-'
  match cs.drop name.length with
  | ':' :: rest => if (name.headD 'a').isAlpha then (name, rest) else ([], cs)
  | _ => ([], cs)

/-- Take two slashes and the authority behind them off the front. -/
def takeAuthority : List Char → List Char × List Char
  | '/' :: '/' :: rest =>
    let authority := rest.takeWhile fun c => c != '/' && c != '?' && c != '#'
    (authority, rest.drop authority.length)
  | cs => ([], cs)

/-- What stands behind a mark, if some characters begin with it. -/
def behind? (mark : Char) : List Char → Option (List Char)
  | c :: rest => if c = mark then some rest else none
  | [] => none

/-- The parts of a text. -/
def split (cs : List Char) : Parts :=
  let (scheme, cs) := takeScheme cs
  let (authority, cs) := takeAuthority cs
  let path := cs.takeWhile fun c => c != '?' && c != '#'
  let cs := cs.drop path.length
  { scheme := scheme
    authority := authority
    path := path
    query := (behind? '?' cs).map (·.takeWhile (· != '#'))
    fragment := behind? '#' (cs.dropWhile (· != '#')) }

/-- The user of an authority, who stands before the last sign for `at`, and what follows. -/
def takeUser (authority : List Char) : List Char × List Char :=
  if authority.contains '@' then
    let rest := (authority.reverse.takeWhile (· != '@')).reverse
    (authority.take (authority.length - rest.length - 1), rest)
  else ([], authority)

/-- The host at the front of a text and what follows: the text up to the last closing
bracket if it begins with a bracket, and else up to a colon. -/
def takeHost (cs : List Char) : List Char × List Char :=
  let bracketed := (cs.reverse.dropWhile (· != ']')).reverse
  let host :=
    if cs.head? = some '[' ∧ ¬ bracketed.isEmpty then bracketed else cs.takeWhile (· != ':')
  (host, cs.drop host.length)

/-! ## Hosts -/

/-- Characters that a host keeps as they are. -/
def hostMarks : String := "!$&'()*+,;=\"\x60\x7b\x7d%|\\"

/-- A host in ASCII: a numeric one without its brackets, and any other in small letters. -/
def readHost (cs : List Char) : Except AddressFault String :=
  let written := String.ofList cs
  if isLikeIpv4 cs then
    if isIpv4 cs then .ok written else .error (.badIpv4 written)
  else if cs.head? = some '[' ∧ cs.getLast? = some ']' then
    let inside := (cs.drop 1).dropLast
    if isZonedIpv6 inside then .ok (String.ofList inside) else .error (.badIpv6 written)
  else if cs.all (·.toNat < 0x80) then
    .ok (escapeExcept hostMarks (String.ofList (cs.map Char.toLower)))
  else
    match Domain.encode (Text.lower cs) with
    | .ok name => .ok name
    | .error (.label .nameless) => .error .nameless
    | .error _ => .error (.badName written)

/-- The number at which a scheme usually asks. -/
def usualNumber? (scheme : String) : Option Int :=
  [("ftp", 21), ("http", 80), ("https", 443), ("ws", 80), ("wss", 443)].lookup scheme

/-- The number spelled behind a host with or without a colon, if it is not the usual one
for the scheme as it is written. -/
def readNumber (scheme text : List Char) : Except AddressFault (Option Int) :=
  let digits := (behind? ':' text).getD text
  if digits.isEmpty then .ok none
  else
    match Text.integer? digits with
    | none => .error (.badNumber (String.ofList digits))
    | some n => .ok (if usualNumber? (String.ofList scheme) = some n then none else some n)

/-! ## Paths -/

/-- Take one step of a path: a single point stays, and double points take back the
step before, but never the blank one at the start. -/
def followStep (done : List (List Char)) (step : List Char) : List (List Char) :=
  if step = ['.'] then done
  else if step = ['.', '.'] then if done = [[]] then done else done.tail
  else step :: done

/-- A path without steps of points. -/
def follow (path : List Char) : List Char :=
  (Text.join "/" (((Text.splitAt '/' path).foldl followStep []).reverse.map String.ofList)).toList

/-! ## Reading -/

/-- Characters that the name of a user keeps as they are. -/
def userMarks : String := "!$%&'()*+,:"

/-- Characters that a path keeps as they are. -/
def pathMarks : String := "!$%&'()*+,/:;=@[\\]^|"

/-- Characters that a query keeps as they are. -/
def queryMarks : String := pathMarks ++ "?\x60\x7b\x7d"

/-- Characters that a fragment keeps as they are. -/
def fragmentMarks : String := pathMarks ++ "#?\x7b\x7d"

/-- Read an address from its parts. -/
def ofParts (p : Parts) : Except AddressFault Address := do
  let (user, rest) := takeUser p.authority
  let (hostText, numberText) := takeHost rest
  let host ← readHost hostText
  let number ← readNumber p.scheme numberText
  let isBare := p.scheme.isEmpty && user.isEmpty && host.isEmpty && number.isNone
  if isBare then
    if "//".toList.isPrefixOf p.path then throw (.badStart "//")
    if ":".toList.isPrefixOf p.path then throw (.badStart ":")
  let escaped := fun marks (cs : List Char) => escapeExcept marks (String.ofList cs)
  return {
    scheme := String.ofList (p.scheme.map Char.toLower)
    user := escaped userMarks user
    host := host
    number := number
    path := escaped pathMarks (if isBare then p.path else follow p.path)
    query := p.query.map (escaped queryMarks)
    fragment := p.fragment.map (escaped fragmentMarks) }

/-- The most characters that an address or a part of it may have. -/
def lengthLimit : Nat := 65536

/-- A control character of ASCII. -/
def isUnprintable (c : Char) : Bool := c.toNat < 0x20 || c.toNat == 0x7F

/-- The first control character and its place. -/
def unprintable? (cs : List Char) : Option (Char × Nat) :=
  (cs.find? isUnprintable).map fun c => (c, cs.findIdx isUnprintable)

def read (text : String) : Except AddressFault Address := do
  let cs := text.toList
  if lengthLimit < cs.length then throw .tooLong
  if let some (c, position) := unprintable? cs then throw (.unprintable c position)
  ofParts (split cs)

/-! ## Exchanging parts -/

/-- The host in brackets if it needs them, with the number behind it. -/
def hostAndNumber (a : Address) : String :=
  bracketed a.host ++ match a.number with
    | some n => ":" ++ toString n
    | none => ""

/-- The parts of an address that has been read. -/
def parts (a : Address) : Parts where
  scheme := a.scheme.toList
  authority := ((if a.user = "" then "" else a.user ++ "@") ++ a.hostAndNumber).toList
  path := a.path.toList
  query := a.query.map (·.toList)
  fragment := a.fragment.map (·.toList)

/-- Check the length and the characters of a part. -/
def checkPart (name : String) (cs : List Char) : Except AddressFault Unit := do
  if lengthLimit < cs.length then throw (.partTooLong name)
  if let some (c, position) := unprintable? cs then throw (.unprintableIn name c position)

/-- Read an address again from parts of which some have been exchanged. -/
def reread (p : Parts) : Except AddressFault Address := do
  checkPart "scheme" p.scheme
  checkPart "authority" p.authority
  checkPart "path" p.path
  checkPart "query" (p.query.getD [])
  checkPart "fragment" (p.fragment.getD [])
  ofParts p

/-- The address with another query. -/
def withQuery (a : Address) (query : Option String) : Except AddressFault Address :=
  reread { a.parts with query := query.map (·.toList) }

/-- The address with another fragment. -/
def withFragment (a : Address) (fragment : String) : Except AddressFault Address :=
  reread { a.parts with fragment := some fragment.toList }

/-! ## The service -/

/-- Whether an address names a host and how to reach it. -/
def isWhole (a : Address) : Bool := a.scheme ≠ "" && a.host ≠ ""

/-- The path to ask for; the empty one is a slash. -/
def pathOrRoot (a : Address) : String := if a.path = "" then "/" else a.path

/-- The address of the service. -/
def service : Address := ⟨"http", "", "test", none, "/", none, none⟩

/-- Read an address that may leave the host open.  It then leads to a path of the service,
whatever else it names, and its fragment is dropped. -/
def readAtService (text : String) : Except AddressFault Address := do
  let a ← read text
  if a.isWhole then return a
  reread { service.parts with
    path := '/' :: a.pathOrRoot.toList.dropWhile (· == '/')
    query := a.query.map (·.toList) }

/-- The host as a person reads it. -/
def decodedHost (a : Address) : Except Domain.NameFault String :=
  if Domain.encodedMark.isPrefixOf a.host.toList then Domain.decode a.host.toList else .ok a.host

end Address

end WorkflowEngine.Http
