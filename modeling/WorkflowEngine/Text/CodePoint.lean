/-!
# Texts as sequences of code points

Most texts are strings, whose code points are all characters.  JSON and bytes can also spell
a surrogate on its own, a code point that is no character and that no encoding can hold.  A
`Text` is either a string or a sequence of code points with such a surrogate among them, so
every sequence of code points is one text.
-/

namespace WorkflowEngine

/-- A code point: a character, or one of the surrogates from U+D800 to U+DFFF on its own. -/
inductive CodePoint where
  | char (c : Char)
  | surrogate (offset : Fin 0x800)
deriving DecidableEq

namespace CodePoint

/-- The code point with a number. -/
def ofNat (n : Nat) : CodePoint :=
  if n.isValidChar then .char (Char.ofNat n) else .surrogate (Fin.ofNat 0x800 (n - 0xD800))

def toNat : CodePoint → Nat
  | .char c => c.toNat
  | .surrogate offset => 0xD800 + offset

def isSurrogate : CodePoint → Bool
  | .char _ => false
  | .surrogate _ => true

/-- Whether a code point is a character of a class. -/
def satisfies (p : Char → Bool) : CodePoint → Bool
  | .char c => p c
  | .surrogate _ => false

/-- The character that stands for a surrogate. -/
def replacement : Char := '\uFFFD'

/-- The character that shows a code point. -/
def shown : CodePoint → Char
  | .char c => c
  | .surrogate _ => replacement

theorem ofNat_toNat_char (c : Char) : ofNat c.toNat = char c := by
  have hvalid : c.toNat.isValidChar := c.valid
  rw [ofNat, if_pos hvalid, Char.ofNat_toNat]

end CodePoint

/-- Code points with a surrogate among them. -/
structure BrokenText where
  points : List CodePoint
  hasSurrogate : points.any CodePoint.isSurrogate = true
deriving DecidableEq

/-- A text: a string, or code points that are no string. -/
inductive Text where
  | proper (s : String)
  | broken (b : BrokenText)
deriving DecidableEq

namespace Text

instance : Coe String Text := ⟨proper⟩

instance : Inhabited Text := ⟨proper ""⟩

/-- The code points of a text. -/
def points : Text → List CodePoint
  | proper s => s.toList.map .char
  | broken b => b.points

/-- The text of some code points. -/
def ofPoints (ps : List CodePoint) : Text :=
  if h : ps.any CodePoint.isSurrogate = true then broken ⟨ps, h⟩
  else proper (String.ofList (ps.map CodePoint.shown))

/-- Whether a text is a string. -/
def isProper : Text → Bool
  | proper _ => true
  | broken _ => false

instance : Append Text := ⟨fun t u => ofPoints (t.points ++ u.points)⟩

/-- The text of some texts with a separator between them. -/
def intercalate (separator : Text) (parts : List Text) : Text :=
  ofPoints (separator.points.intercalate (parts.map points))

/-- A text as a string, three replacement characters in the place of each surrogate. -/
def lossy : Text → String
  | proper s => s
  | broken b => String.ofList <| b.points.flatMap fun
    | .char c => [c]
    | .surrogate _ => List.replicate 3 CodePoint.replacement

/-! ## Code points and texts -/

@[simp] theorem points_proper (s : String) : (proper s).points = s.toList.map .char := rfl

@[simp] theorem isProper_proper (s : String) : (proper s).isProper = true := rfl

@[simp] theorem isProper_broken (b : BrokenText) : (broken b).isProper = false := rfl

theorem isProper_iff {t : Text} : t.isProper = true ↔ ∃ s, t = proper s := by
  cases t with
  | proper s => simp
  | broken b => simp

theorem any_isSurrogate_map_char (cs : List Char) :
    (cs.map CodePoint.char).any CodePoint.isSurrogate = false := by
  simp [CodePoint.isSurrogate]

theorem map_shown_map_char (cs : List Char) :
    (cs.map CodePoint.char).map CodePoint.shown = cs := by
  simp [Function.comp_def, CodePoint.shown]

/-- Code points that are all characters are a string. -/
@[simp] theorem ofPoints_map_char (cs : List Char) :
    ofPoints (cs.map .char) = proper (String.ofList cs) := by
  rw [ofPoints, dif_neg (by rw [any_isSurrogate_map_char]; exact Bool.false_ne_true),
    map_shown_map_char]

@[simp] theorem ofPoints_points (t : Text) : ofPoints t.points = t := by
  cases t with
  | proper s => rw [points_proper, ofPoints_map_char, String.ofList_toList]
  | broken b => exact dif_pos b.hasSurrogate

/-- Code points without a surrogate are characters. -/
theorem map_char_map_shown {ps : List CodePoint} (h : ¬ ps.any CodePoint.isSurrogate = true) :
    (ps.map CodePoint.shown).map CodePoint.char = ps := by
  induction ps with
  | nil => rfl
  | cons p ps ih =>
    rw [List.any_cons, Bool.or_eq_true, not_or] at h
    cases p with
    | char c => rw [List.map_cons, List.map_cons, ih h.2]; rfl
    | surrogate offset => exact absurd rfl h.1

@[simp] theorem points_ofPoints (ps : List CodePoint) : (ofPoints ps).points = ps := by
  unfold ofPoints
  split
  · rfl
  · next h => rw [points_proper, String.toList_ofList, map_char_map_shown h]

/-- Texts with the same code points are the same. -/
theorem points_inj {t u : Text} : t.points = u.points ↔ t = u := by
  constructor
  · intro h
    rw [← ofPoints_points t, h, ofPoints_points]
  · exact congrArg points

end Text

end WorkflowEngine
