import Mathlib.Tactic.SplitIfs
import WorkflowEngine.Proofs.Json.Admitted
import WorkflowEngine.Proofs.Json.WriteRead

/-!
# Integer literals that are too long

The readers take code points from the front and leave the rest of the text untouched.  So
a reader that stops at an integer literal of too many digits has found that literal in
the text.  Literals are looked for among characters, each surrogate shown as the character
that stands for it: it belongs to no literal and ends one like any other character.
-/

namespace WorkflowEngine.Json

/-- A text holds an integer literal of some number of digits, more than are accepted. -/
def HoldsLongLiteral (count : Nat) (cs : List Char) : Prop :=
  digitLimit < count ∧
    ∃ literal : List Char, literal <:+ cs ∧ (integerPart literal).length = count ∧
      fractionPart (literal.drop count) = none ∧ exponentPart (literal.drop count) = none

theorem HoldsLongLiteral.of_suffix {count : Nat} {rest cs : List Char}
    (h : HoldsLongLiteral count rest) (hrest : rest <:+ cs) : HoldsLongLiteral count cs := by
  obtain ⟨hlimit, literal, hsuffix, hinteger⟩ := h
  exact ⟨hlimit, literal, hsuffix.trans hrest, hinteger⟩

/-- How the result of a reader traces back to the text: what is left is the end of it,
and a literal of too many digits stands in it. -/
def Traced {α : Type} (ps : List CodePoint) : Except Stop (α × List CodePoint) → Prop
  | .ok (_, rest) => rest <:+ ps
  | .error (.tooManyDigits count) => HoldsLongLiteral count (ps.map CodePoint.shown)
  | .error (.malformed _) => True

theorem traced_stopAt {α : Type} (ps left : List CodePoint) : Traced (α := α) ps (stopAt left) :=
  trivial

theorem Traced.of_suffix {α : Type} {rest ps : List CodePoint}
    {r : Except Stop (α × List CodePoint)} (h : Traced rest r) (hrest : rest <:+ ps) :
    Traced ps r := by
  rcases r with (left | count) | ⟨x, left⟩
  · trivial
  · exact HoldsLongLiteral.of_suffix h (hrest.map CodePoint.shown)
  · exact List.IsSuffix.trans h hrest

/-- A stop traces back to the text whatever was to be read. -/
theorem Traced.of_error {α β : Type} {ps : List CodePoint} {stop : Stop}
    (h : Traced (α := α) ps (.error stop)) : Traced (α := β) ps (.error stop) := by
  cases stop with
  | malformed left => trivial
  | tooManyDigits count => exact h

theorem skipBlanks_suffix (ps : List CodePoint) : skipBlanks ps <:+ ps := List.dropWhile_suffix _

theorem suffix_of_skipBlanks_eq_cons {ps rest : List CodePoint} {p : CodePoint}
    (h : skipBlanks ps = p :: rest) : rest <:+ ps :=
  (List.suffix_cons p rest).trans (h ▸ skipBlanks_suffix ps)

/-! ## Strings -/

theorem suffix_of_hexUnit? {ps rest : List CodePoint} {n : Nat} (h : hexUnit? ps = some (n, rest)) :
    rest <:+ ps := by
  unfold hexUnit? at h
  split at h
  · next a b c d tail =>
    simp only [bind, Option.bind_eq_some_iff] at h
    obtain ⟨_, -, _, -, _, -, _, -, hpair⟩ := h
    have hrest := (Prod.mk.inj (Option.some.inj hpair)).2
    rw [← hrest]
    exact ⟨[.char a, .char b, .char c, .char d], rfl⟩
  · contradiction

theorem traced_readUnit (fromLetter ps : List CodePoint) : Traced ps (readUnit fromLetter ps) := by
  unfold readUnit
  split
  · exact traced_stopAt _ _
  · split
    · exact traced_stopAt _ _
    · next high tail hhigh =>
      have htail := suffix_of_hexUnit? hhigh
      split
      · next more =>
        split
        · split
          · exact traced_stopAt _ _
          · next low after hlow =>
            split
            · have hmore : more <:+ .char '\\' :: .char 'u' :: more :=
                ⟨[.char '\\', .char 'u'], rfl⟩
              exact (suffix_of_hexUnit? hlow).trans (hmore.trans htail)
            · exact htail
        · exact htail
      · exact htail

theorem traced_readString (opening : List CodePoint) (fuel : Nat) (seen ps : List CodePoint) :
    Traced ps (readString opening fuel seen ps) := by
  induction fuel generalizing seen ps with
  | zero => exact traced_stopAt _ _
  | succ fuel ih =>
    rw [readString.eq_def]
    dsimp only
    split
    · exact traced_stopAt _ _
    · exact List.suffix_cons _ _
    · next tail =>
      have hunit := traced_readUnit (.char 'u' :: tail) tail
      have htail : tail <:+ .char '\\' :: .char 'u' :: tail := ⟨[.char '\\', .char 'u'], rfl⟩
      split
      · next stop hstop =>
        rw [hstop] at hunit
        exact hunit.of_error.of_suffix htail
      · next c after hread =>
        rw [hread] at hunit
        exact (ih _ _).of_suffix (List.IsSuffix.trans hunit htail)
    · next e tail _ =>
      split
      · exact traced_stopAt _ _
      · exact (ih _ _).of_suffix ⟨[.char '\\', .char e], rfl⟩
    · exact traced_stopAt _ _
    · exact traced_stopAt _ _
    · split
      · exact traced_stopAt _ _
      · exact (ih _ _).of_suffix (List.suffix_cons _ _)
    · exact (ih _ _).of_suffix (List.suffix_cons _ _)

/-! ## Values without parts -/

/-- A number is refused for its digits only where its literal has too many of them. -/
theorem holdsLongLiteral_of_readNumber {start cs : List Char} {negative : Bool} {count : Nat}
    (h : readNumber start negative cs = .error (.tooManyDigits count)) :
    HoldsLongLiteral count cs := by
  rw [readNumber] at h
  dsimp only at h
  split_ifs at h with hempty hinteger hlimit
  · cases h
  · obtain ⟨hfraction, hexponent⟩ := hinteger
    rw [Option.isNone_iff_eq_none] at hfraction hexponent
    rw [hfraction] at hexponent
    obtain rfl := Stop.tooManyDigits.inj (Except.error.inj h)
    exact ⟨hlimit, cs, List.suffix_refl cs, rfl, hfraction, hexponent⟩

theorem holdsLongLiteral_of_readPlain {cs : List Char} {count : Nat}
    (h : readPlain cs = .error (.tooManyDigits count)) : HoldsLongLiteral count cs := by
  unfold readPlain at h
  split at h
  · contradiction
  · split at h
    · exact (holdsLongLiteral_of_readNumber h).of_suffix (List.suffix_cons _ _)
    · exact holdsLongLiteral_of_readNumber h

theorem traced_readLeaf (ps : List CodePoint) : Traced ps (readLeaf ps) := by
  rw [readLeaf]
  cases h : readPlain (ps.map CodePoint.shown) with
  | ok result => exact List.drop_suffix _ ps
  | error stop =>
    cases stop with
    | malformed left => trivial
    | tooManyDigits count => exact holdsLongLiteral_of_readPlain h

/-! ## Values with parts -/

/-- Every result of a reader traces back to its text. -/
def Traceable {α : Type} (read : Reader CodePoint α) : Prop := ∀ ps, Traced ps (read ps)

theorem traceable_readValue_succ {fuel : Nat} (hitems : Traceable (readItems fuel))
    (hmembers : Traceable (readMembers fuel)) : Traceable (readValue (fuel + 1)) := by
  intro ps
  rw [readValue.eq_def]
  dsimp only
  split
  · next tail =>
    have hstring := (traced_readString (.char '"' :: tail) fuel [] tail).of_suffix
      (List.suffix_cons (.char '"') tail)
    split
    · next stop hstop =>
      rw [hstop] at hstring
      exact hstring.of_error
    · next s after hread =>
      rw [hread] at hstring
      exact hstring
  · next tail =>
    have hinner := (skipBlanks_suffix tail).trans (List.suffix_cons (.char '[') tail)
    split
    · next after hblanks =>
      exact (suffix_of_skipBlanks_eq_cons hblanks).trans (List.suffix_cons _ _)
    · have hread := (hitems (skipBlanks tail)).of_suffix hinner
      split
      · next stop hstop =>
        rw [hstop] at hread
        exact hread.of_error
      · next xs after hxs =>
        rw [hxs] at hread
        exact hread
  · next tail =>
    have hinner := (skipBlanks_suffix tail).trans (List.suffix_cons (.char '{') tail)
    split
    · next after hblanks =>
      exact (suffix_of_skipBlanks_eq_cons hblanks).trans (List.suffix_cons _ _)
    · have hread := (hmembers (skipBlanks tail)).of_suffix hinner
      split
      · next stop hstop =>
        rw [hstop] at hread
        exact hread.of_error
      · next pairs after hpairs =>
        rw [hpairs] at hread
        exact hread
  · exact traced_readLeaf _

theorem traceable_readItems_succ {fuel : Nat} (hvalue : Traceable (readValue fuel))
    (hitems : Traceable (readItems fuel)) : Traceable (readItems (fuel + 1)) := by
  intro ps
  rw [readItems.eq_def]
  dsimp only
  have hfirst := hvalue ps
  split
  · next stop hstop =>
    rw [hstop] at hfirst
    exact hfirst.of_error
  · next x after hx =>
    rw [hx] at hfirst
    split
    · next tail hblanks => exact (suffix_of_skipBlanks_eq_cons hblanks).trans hfirst
    · next tail hblanks =>
      have htail := (suffix_of_skipBlanks_eq_cons hblanks).trans hfirst
      have hothers := (hitems (skipBlanks tail)).of_suffix ((skipBlanks_suffix tail).trans htail)
      split
      · next stop hstop =>
        rw [hstop] at hothers
        exact hothers
      · next xs last hxs =>
        rw [hxs] at hothers
        exact hothers
    · exact traced_stopAt _ _

theorem traceable_readMembers_succ {fuel : Nat} (hvalue : Traceable (readValue fuel))
    (hmembers : Traceable (readMembers fuel)) : Traceable (readMembers (fuel + 1)) := by
  intro ps
  rw [readMembers.eq_def]
  dsimp only
  split
  · next tail =>
    have hkey := (traced_readString (.char '"' :: tail) fuel [] tail).of_suffix
      (List.suffix_cons (.char '"') tail)
    split
    · next stop hstop =>
      rw [hstop] at hkey
      exact hkey.of_error
    · next key after hread =>
      rw [hread] at hkey
      split
      · next colon hcolon =>
        have hcolon := (suffix_of_skipBlanks_eq_cons hcolon).trans hkey
        have hv := (hvalue (skipBlanks colon)).of_suffix ((skipBlanks_suffix colon).trans hcolon)
        split
        · next stop hstop =>
          rw [hstop] at hv
          exact hv.of_error
        · next v ending hread =>
          rw [hread] at hv
          split
          · next rest hblanks => exact (suffix_of_skipBlanks_eq_cons hblanks).trans hv
          · next rest hblanks =>
            have hrest := (suffix_of_skipBlanks_eq_cons hblanks).trans hv
            have hothers :=
              (hmembers (skipBlanks rest)).of_suffix ((skipBlanks_suffix rest).trans hrest)
            split
            · next stop hstop =>
              rw [hstop] at hothers
              exact hothers
            · next pairs last hpairs =>
              rw [hpairs] at hothers
              exact hothers
          · exact traced_stopAt _ _
      · exact traced_stopAt _ _
  · exact traced_stopAt _ _

/-- The three readers call each other with less fuel, so they are traceable together. -/
theorem traceable_readers (fuel : Nat) :
    Traceable (readValue fuel) ∧ Traceable (readItems fuel) ∧ Traceable (readMembers fuel) := by
  induction fuel with
  | zero => exact ⟨fun _ => trivial, fun _ => trivial, fun _ => trivial⟩
  | succ fuel ih =>
    obtain ⟨hvalue, hitems, hmembers⟩ := ih
    exact ⟨traceable_readValue_succ hitems hmembers, traceable_readItems_succ hvalue hitems,
      traceable_readMembers_succ hvalue hmembers⟩

/-! ## Texts -/

theorem readPoints_eq_tooManyDigits_iff {ps : List CodePoint} {count : Nat} :
    readPoints ps = .error (.tooManyDigits count) ↔
      readWhole ps = .error (.tooManyDigits count) := by
  rw [readPoints]
  cases readWhole ps with
  | ok j =>
    constructor
    · intro h
      cases h
    · intro h
      cases h
  | error stop =>
    cases stop with
    | malformed left =>
      constructor
      · intro h
        cases h
      · intro h
        cases h
    | tooManyDigits n =>
      constructor
      · intro h
        rw [ReadFault.tooManyDigits.inj (Except.error.inj h)]
      · intro h
        rw [Stop.tooManyDigits.inj (Except.error.inj h)]
        rfl

/-- A text whose reading stops at a literal of too many digits holds it. -/
theorem holdsLongLiteral_of_readPoints {ps : List CodePoint} {count : Nat}
    (h : readPoints ps = .error (.tooManyDigits count)) :
    HoldsLongLiteral count (ps.map CodePoint.shown) := by
  have hvalue := ((traceable_readers (fuelFor ps)).1 (skipBlanks ps)).of_suffix
    (skipBlanks_suffix ps)
  rw [readPoints_eq_tooManyDigits_iff, readWhole] at h
  split at h
  · next stop hstop =>
    rw [hstop, Except.error.inj h] at hvalue
    exact hvalue
  · split at h
    · contradiction
    · cases h

theorem holdsLongLiteral_of_read {text : Text} {count : Nat}
    (h : read text = .error (.tooManyDigits count)) :
    HoldsLongLiteral count (text.points.map CodePoint.shown) := by
  unfold read at h
  split at h
  · next p rest hps =>
    split at h
    · cases h
    · rw [hps]
      exact holdsLongLiteral_of_readPoints h
  · next hps =>
    rw [hps]
    exact holdsLongLiteral_of_readPoints h

/-- A text that is one literal of too many digits is not read. -/
theorem read_of_longLiteral (negative : Bool) {whole : List Char} (hwhole : IsWhole whole)
    (hlimit : digitLimit < whole.length) :
    read (String.ofList (signChars negative ++ whole)) = .error (.tooManyDigits whole.length) := by
  obtain ⟨c, cs, rfl⟩ := List.exists_cons_of_ne_nil hwhole.nonempty
  have hc := hwhole.digits c (by simp)
  have hleaf : StartsLeaf (signChars negative ++ c :: cs) := startsLeaf_signChars hc cs
  have hnumber : readNumber (signChars negative ++ c :: cs) negative (c :: cs ++ []) = _ :=
    readNumber_digits hwhole (by simp [EndsNumber])
  rw [List.append_nil, if_pos hlimit, ← readPlain_signChars hc] at hnumber
  exact read_ofList_of_readPlain hleaf hnumber

end WorkflowEngine.Json
