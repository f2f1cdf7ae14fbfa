/-!
# Capital letters

Names that are compared without regard to case are brought into capitals first.  The
names in question are ASCII, so only those capitals matter that are.
-/

namespace WorkflowEngine.Text

/-- The characters outside ASCII whose capitals are ASCII letters: two letters, the
sharp s and the ligatures. -/
def foreignCapitals : List (Nat × String) :=
  [(0xDF, "SS"), (0x131, "I"), (0x17F, "S"), (0xFB00, "FF"), (0xFB01, "FI"), (0xFB02, "FL"),
    (0xFB03, "FFI"), (0xFB04, "FFL"), (0xFB05, "ST"), (0xFB06, "ST")]

/-- A text with capitals in place of the letters whose capitals are ASCII letters. -/
def capitals (s : String) : String :=
  String.ofList <| s.toList.flatMap fun c =>
    match foreignCapitals.lookup c.toNat with
    | some letters => letters.toList
    | none => [c.toUpper]

end WorkflowEngine.Text
