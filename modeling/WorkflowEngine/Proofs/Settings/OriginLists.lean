import WorkflowEngine.Proofs.Text.Parts
import WorkflowEngine.Settings

/-!
# Lists of origins in a text

A list of origins can be spelled in many ways: there may be blanks around the commas, and parts
between commas may be blank or empty.  What a text is read as is described without the reader, by
`IsOrigin` and `Spells`.  Reading finds the one list of origins that the text spells, and joining
that list with commas spells it again.
-/

namespace WorkflowEngine.Settings

open Text

/-- Whether a code point counts as a blank. -/
abbrev isPad (p : CodePoint) : Bool := p.satisfies isSpacing

/-- A text that can stand in a list of origins: it is not empty, has no blank at either end and
holds no comma. -/
structure IsOrigin (origin : Text) : Prop where
  filled : origin ≠ ""
  bare : Bare isPad origin.points
  noComma : .char ',' ∉ origin.points

/-- A text of blanks only, which may be empty. -/
def IsPadding (part : List CodePoint) : Prop := ∀ p ∈ part, isPad p = true

/-- Some parts give some origins in order: each part is an origin with padding around it, or it
is padding and gives none. -/
inductive Gives : List (List CodePoint) → List Text → Prop where
  | nil : Gives [] []
  | padding {part : List CodePoint} {parts : List (List CodePoint)} {origins : List Text}
    (hpart : IsPadding part) (hrest : Gives parts origins) : Gives (part :: parts) origins
  | origin {before after : List CodePoint} {origin : Text} {parts : List (List CodePoint)}
    {origins : List Text} (hbefore : IsPadding before) (hafter : IsPadding after)
    (hrest : Gives parts origins) :
    Gives ((before ++ origin.points ++ after) :: parts) (origin :: origins)

/-- A text spells some origins: with commas between them, its parts give these origins. -/
def Spells (t : Text) (origins : List Text) : Prop :=
  ∃ parts, t.points = [.char ','].intercalate parts ∧ Gives parts origins

/-- The origin in a part of a text, or the empty text if the part is padding. -/
def originIn (part : List CodePoint) : Text := ofPoints (trim isPad part)

theorem splitOrigins_eq (t : Text) :
    splitOrigins t =
      ((splitAt (.char ',') t.points).map originIn).filter (fun o : Text => o ≠ "") :=
  rfl

/-! ## Single parts -/

theorem not_mem_of_isPadding {part : List CodePoint} (h : IsPadding part) : .char ',' ∉ part :=
  fun hmem => absurd (h _ hmem) (by decide)

theorem originIn_eq_empty_iff {part : List CodePoint} : originIn part = "" ↔ IsPadding part := by
  have hempty : (Text.proper "").points = [] := rfl
  rw [originIn, ← points_inj, points_ofPoints, hempty]
  constructor
  · intro h
    obtain ⟨before, after, hpart, hbefore, hafter⟩ := exists_append_trim_append isPad part
    rw [h, List.append_nil] at hpart
    rw [hpart]
    exact List.forall_mem_append.mpr ⟨hbefore, hafter⟩
  · intro h
    have hnil : Bare isPad [] := ⟨by simp, by simp⟩
    simpa using trim_append h (List.forall_mem_nil _) hnil

theorem originIn_append {before after : List CodePoint} {origin : Text}
    (hbefore : IsPadding before) (hafter : IsPadding after) (h : IsOrigin origin) :
    originIn (before ++ origin.points ++ after) = origin := by
  rw [originIn, trim_append hbefore hafter h.bare, ofPoints_points]

theorem isOrigin_originIn {part : List CodePoint} (hpart : .char ',' ∉ part)
    (hne : originIn part ≠ "") : IsOrigin (originIn part) := by
  refine ⟨hne, ?_, ?_⟩
  · rw [originIn, points_ofPoints]
    exact bare_trim isPad part
  · obtain ⟨before, after, hsame, -, -⟩ := exists_append_trim_append isPad part
    rw [hsame] at hpart
    rw [originIn, points_ofPoints]
    intro hmem
    exact hpart (List.mem_append_left _ (List.mem_append_right _ hmem))

/-! ## Parts in order -/

theorem gives_originIn (parts : List (List CodePoint)) :
    Gives parts ((parts.map originIn).filter fun o : Text => o ≠ "") := by
  induction parts with
  | nil => exact .nil
  | cons part parts ih =>
    rw [List.map_cons]
    by_cases hpart : originIn part = ""
    · rw [List.filter_cons_of_neg (by simpa using hpart)]
      exact .padding (originIn_eq_empty_iff.mp hpart) ih
    · rw [List.filter_cons_of_pos (by simpa using hpart)]
      obtain ⟨before, after, hsame, hbefore, hafter⟩ :=
        exists_append_trim_append isPad part
      have hsplit : part = before ++ (originIn part).points ++ after := by
        rwa [originIn, points_ofPoints]
      have hgives : Gives ((before ++ (originIn part).points ++ after) :: parts)
          (originIn part :: (parts.map originIn).filter fun o : Text => o ≠ "") :=
        .origin hbefore hafter ih
      rwa [← hsplit] at hgives

namespace Gives

variable {parts : List (List CodePoint)} {origins : List Text}

/-- The origins are what is left of the parts. -/
theorem filter_originIn (h : Gives parts origins) (horigins : ∀ o ∈ origins, IsOrigin o) :
    ((parts.map originIn).filter fun o : Text => o ≠ "") = origins := by
  induction h with
  | nil => rfl
  | padding hpart _ ih =>
    rw [List.map_cons, originIn_eq_empty_iff.mpr hpart]
    exact ih horigins
  | origin hbefore hafter _ ih =>
    obtain ⟨horigin, hrest⟩ := List.forall_mem_cons.mp horigins
    rw [List.map_cons, originIn_append hbefore hafter horigin,
      List.filter_cons_of_pos (by simpa using horigin.filled), ih hrest]

theorem not_mem (h : Gives parts origins) (horigins : ∀ o ∈ origins, IsOrigin o) :
    ∀ part ∈ parts, .char ',' ∉ part := by
  induction h with
  | nil => exact List.forall_mem_nil _
  | padding hpart _ ih =>
    exact List.forall_mem_cons.mpr ⟨not_mem_of_isPadding hpart, ih horigins⟩
  | origin hbefore hafter _ ih =>
    obtain ⟨horigin, hrest⟩ := List.forall_mem_cons.mp horigins
    refine List.forall_mem_cons.mpr ⟨?_, ih hrest⟩
    simp [not_mem_of_isPadding hbefore, horigin.noComma, not_mem_of_isPadding hafter]

end Gives

/-! ## Texts -/

/-- A text is read as the list of origins that it spells. -/
theorem splitOrigins_eq_iff {t : Text} {origins : List Text} :
    splitOrigins t = origins ↔ (∀ o ∈ origins, IsOrigin o) ∧ Spells t origins := by
  constructor
  · rintro rfl
    constructor
    · intro o ho
      rw [splitOrigins_eq, List.mem_filter] at ho
      obtain ⟨part, hpart, rfl⟩ := List.mem_map.mp ho.1
      exact isOrigin_originIn (not_mem_of_mem_splitAt hpart) (by simpa using ho.2)
    · have hparts := (intercalate_splitAt (.char ',') t.points).symm
      exact ⟨splitAt (.char ',') t.points, hparts, gives_originIn _⟩
  · rintro ⟨horigins, parts, ht, hparts⟩
    rw [splitOrigins_eq, ht]
    by_cases hne : parts = []
    -- the text is empty, and is read as one empty part instead of none
    · subst hne
      cases hparts
      decide
    · rw [splitAt_intercalate hne (hparts.not_mem horigins), hparts.filter_originIn horigins]

theorem spells_intercalate (origins : List Text) : Spells (intercalate "," origins) origins := by
  refine ⟨origins.map points, points_ofPoints _, ?_⟩
  induction origins with
  | nil => exact .nil
  | cons origin origins ih =>
    have hpadding : IsPadding [] := List.forall_mem_nil _
    have hpart : origin.points = [] ++ origin.points ++ [] := by simp
    rw [List.map_cons, hpart]
    exact .origin hpadding hpadding ih

theorem parseOrigins_str_eq_iff {t : Text} {origins : List Text} :
    parseOrigins (.str t) = .arr (origins.map .str) ↔ splitOrigins t = origins := by
  rw [parseOrigins, Json.arr.injEq, List.map_inj_right fun _ _ => Json.str.inj]

/-- Every text is read as some origins.  None of them is empty, has a blank at an end or holds a
comma; a text is read as a list of such origins exactly if it spells them, with any blanks around
the commas and any number of blank parts; and joined with commas the origins are read again as
they are. -/
theorem parseOrigins_normalForm (t : Text) :
    ∃ origins : List Text, parseOrigins (.str t) = .arr (origins.map .str) ∧
      (∀ o ∈ origins, IsOrigin o) ∧
      (∀ others : List Text, (∀ o ∈ others, IsOrigin o) →
        (parseOrigins (.str t) = .arr (others.map .str) ↔ Spells t others)) ∧
      parseOrigins (.str (intercalate "," origins)) = parseOrigins (.str t) := by
  obtain ⟨horigins, hspells⟩ := splitOrigins_eq_iff.mp (Eq.refl (splitOrigins t))
  refine ⟨splitOrigins t, rfl, horigins, ?_, ?_⟩
  · intro others hothers
    rw [parseOrigins_str_eq_iff, splitOrigins_eq_iff]
    exact ⟨And.right, fun h => ⟨hothers, h⟩⟩
  · exact parseOrigins_str_eq_iff.mpr (splitOrigins_eq_iff.mpr ⟨horigins, spells_intercalate _⟩)

example : splitOrigins " a.test ,, b c\t,\u2003" = ["a.test", "b c"] := by decide

end WorkflowEngine.Settings
