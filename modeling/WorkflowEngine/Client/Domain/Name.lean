import WorkflowEngine.Client.Domain.Label

/-!
# Domain names

A domain name consists of labels with points between them and perhaps a point at its end.
The client decodes the name of the host that it asks.
-/

namespace WorkflowEngine.Domain

/-- Why a text is no domain name. -/
inductive NameFault where
  | empty
  | tooLong
  | label (fault : LabelFault)
deriving DecidableEq

def NameFault.message : NameFault → String
  | .empty => "Empty domain"
  | .tooLong => "Domain too long"
  | .label fault => fault.message

/-- The points that stand between labels. -/
def isPoint (c : Char) : Bool :=
  c == '.' || c.toNat == 0x3002 || c.toNat == 0xFF0E || c.toNat == 0xFF61

/-- The labels of a name, and whether a point follows the last one. -/
def labelsOf (cs : List Char) : Except NameFault (List (List Char) × Bool) :=
  if cs.isEmpty then .error .empty
  else
    let labels := Text.splitAt '.' (cs.map fun c => if isPoint c then '.' else c)
    if labels.getLast? = some [] then .ok (labels.dropLast, true) else .ok (labels, false)

/-- The greatest number of characters of a name in ASCII without a point at its end. -/
def nameLimit : Nat := 253

/-- Some parts with points between them and perhaps one at the end. -/
def joinParts (parts : List String) (isClosed : Bool) : String :=
  Text.join "." (if isClosed then parts ++ [""] else parts)

/-- The form of a name in ASCII. -/
def encode (cs : List Char) : Except NameFault String := do
  let (labels, isClosed) ← labelsOf cs
  let encoded ← (labels.mapM encodeLabel).mapError .label
  let name := joinParts (encoded.map String.ofList) isClosed
  if nameLimit + (if isClosed then 1 else 0) < name.length then throw .tooLong
  return name

/-- The name that is meant by one in ASCII. -/
def decode (cs : List Char) : Except NameFault String := do
  let (labels, isClosed) ← labelsOf cs
  let decoded ← (labels.mapM decodeLabel).mapError .label
  return joinParts (decoded.map fun label => String.ofList (label.map Char.ofNat)) isClosed

end WorkflowEngine.Domain
