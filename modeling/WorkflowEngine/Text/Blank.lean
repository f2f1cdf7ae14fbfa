/-!
# Blank characters

The characters of the Unicode property `White_Space`, trimming by a class of
elements, and splitting at a separator.
-/

namespace WorkflowEngine.Text

/-- The numbers of the characters with the property `White_Space`, as closed
ranges. -/
def blankRanges : List (Nat × Nat) :=
  [(0x09, 0x0D), (0x20, 0x20), (0x85, 0x85), (0xA0, 0xA0), (0x1680, 0x1680), (0x2000, 0x200A),
    (0x2028, 0x2029), (0x202F, 0x202F), (0x205F, 0x205F), (0x3000, 0x3000)]

/-- Whether a number lies in one of some closed ranges. -/
def inRanges (ranges : List (Nat × Nat)) (n : Nat) : Bool :=
  ranges.any fun (low, high) => low ≤ n && n ≤ high

/-- Whether a character has the property `White_Space`. -/
def isBlank (c : Char) : Bool := inRanges blankRanges c.toNat

/-- Blank characters together with the four information separators. -/
def isSpacing (c : Char) : Bool := isBlank c || (0x1C ≤ c.toNat && c.toNat ≤ 0x1F)

/-- Remove the elements of a class from both ends. -/
def trim {α : Type} (drop : α → Bool) (cs : List α) : List α :=
  ((cs.dropWhile drop).reverse.dropWhile drop).reverse

/-- The parts of a list between separators; there is always at least one. -/
def splitAt {α : Type} [DecidableEq α] (separator : α) : List α → List (List α)
  | [] => [[]]
  | c :: cs =>
    if c = separator then [] :: splitAt separator cs
    else match splitAt separator cs with
      | part :: parts => (c :: part) :: parts
      | [] => [[c]]

/-- Join texts with a separator between them. -/
def join (separator : String) (parts : List String) : String := separator.intercalate parts

end WorkflowEngine.Text
