import WorkflowEngine.Json.Reader
import WorkflowEngine.Text.Blank

/-!
# Numeric hosts

The spellings of hosts by number: four decimal numbers with points between them, or eight
groups of hexadecimal digits with colons between them.
-/

namespace WorkflowEngine.Http

/-! ## Four numbers -/

/-- Whether some digits spell a number of at most eight bits without needless zeros. -/
def isOctet (cs : List Char) : Bool :=
  !cs.isEmpty && cs.length ≤ 3 && cs.all Json.isDigit && (cs == ['0'] || cs.head? != some '0') &&
    Json.natOfDigits cs ≤ 255

/-- Whether a text is four numbers with points between them. -/
def isIpv4 (cs : List Char) : Bool :=
  let parts := Text.splitAt '.' cs
  parts.length == 4 && parts.all isOctet

/-- Whether a text is four runs of digits with points between them, whatever they spell. -/
def isLikeIpv4 (cs : List Char) : Bool :=
  let parts := Text.splitAt '.' cs
  parts.length == 4 && parts.all fun part => !part.isEmpty && part.all Json.isDigit

/-! ## Eight groups -/

/-- Whether a text is a group of at most four hexadecimal digits. -/
def isGroup (cs : List Char) : Bool :=
  !cs.isEmpty && cs.length ≤ 4 && cs.all fun c => (Json.hexValue? c).isSome

/-- The parts of a text between colons; four numbers at the end stand for two groups. -/
def groupsOf (cs : List Char) : List (List Char) :=
  let parts := Text.splitAt ':' cs
  if (parts.getLast?.map isIpv4).getD false then parts.dropLast ++ [['0'], ['0']] else parts

/-- What stands at one side of two colons: nothing, or some groups. -/
def sideGroups (side : List (List Char)) : List (List Char) := if side = [[]] then [] else side

/-- Whether some parts are eight groups.  Two colons stand once for one or more groups of
zeros. -/
def areGroups (parts : List (List Char)) : Bool :=
  let inner := (parts.drop 1).dropLast
  match inner.count [] with
  | 0 => parts.length == 8 && parts.all isGroup
  | 1 =>
    let gap := inner.findIdx (·.isEmpty) + 1
    let groups := sideGroups (parts.take gap) ++ sideGroups (parts.drop (gap + 1))
    groups.length ≤ 7 && groups.all isGroup
  | _ => false

/-- Whether a text is eight groups. -/
def isIpv6 (cs : List Char) : Bool :=
  3 ≤ (Text.splitAt ':' cs).length && areGroups (groupsOf cs)

/-- Whether a text is eight groups, perhaps with the name of a zone behind a percent sign. -/
def isZonedIpv6 (cs : List Char) : Bool :=
  let address := cs.takeWhile (· != '%')
  let isZone := match cs.drop address.length with
    | [] => true
    | _ :: zone => !zone.isEmpty && !zone.contains '%'
  isZone && isIpv6 address

/-- A host that has colons inside stands in brackets. -/
def bracketed (host : String) : String :=
  if host.toList.contains ':' then "[" ++ host ++ "]" else host

end WorkflowEngine.Http
