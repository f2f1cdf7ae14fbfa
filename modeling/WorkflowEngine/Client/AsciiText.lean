import WorkflowEngine.Http.Message
import WorkflowEngine.Json.Display

/-!
# Texts that are sent in ASCII

The client sends headers and the names of hosts in ASCII.  Other characters keep them from
being sent, and the first of them is named.
-/

namespace WorkflowEngine.Http

/-- Characters outside ASCII in a text that is sent in ASCII. -/
structure AsciiFault where
  /-- The place of the first one. -/
  position : Nat
  /-- The first one and those that follow it directly. -/
  characters : List Char
deriving DecidableEq

def AsciiFault.message (f : AsciiFault) : String :=
  let found := match f.characters with
    | [c] =>
      "character '" ++ String.ofList (Json.escapedChar c) ++ "' in position " ++ toString f.position
    | cs =>
      "characters in position " ++ toString f.position ++ "-" ++
        toString (f.position + cs.length - 1)
  "'ascii' codec can't encode " ++ found ++ ": ordinal not in range(128)"

def isAscii (c : Char) : Bool := c.toNat < 0x80

/-- What keeps a text from being sent. -/
def asciiFault? (s : String) : Option AsciiFault :=
  let ahead := s.toList.takeWhile isAscii
  match s.toList.drop ahead.length with
  | [] => none
  | rest => some ⟨ahead.length, rest.takeWhile (!isAscii ·)⟩

/-- What keeps some headers from being sent; names come before their values. -/
def headersFault? (headers : Headers) : Option AsciiFault :=
  headers.findSome? fun (name, value) => asciiFault? name <|> asciiFault? value

end WorkflowEngine.Http
