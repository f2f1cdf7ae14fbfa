import Mathlib.Data.List.TakeWhile
import WorkflowEngine.Proofs.Json.Numbers
import WorkflowEngine.Proofs.Number.Signs
import WorkflowEngine.Proofs.Text.Parts
import WorkflowEngine.Schema.Leaf

/-!
# Texts that spell numbers

A text is read as an integer and as a binary64 number, and each of the two readers allows
what the other does not.  They agree on the sign: a text that spells a negative integer
spells no number that is at least zero.  To see this both readers are compared on the text
without its blanks and underscores.
-/

namespace WorkflowEngine.Schema

open Json (isDigit natOfDigits pointed)

/-! ## Characters of numbers -/

/-- Neither a blank nor an underscore. -/
def Dense (c : Char) : Prop := Text.isBlank c = false ∧ c ≠ '_'

instance (c : Char) : Decidable (Dense c) := inferInstanceAs (Decidable (_ ∧ _))

theorem toLower_eq_self {c : Char} (hc : ¬ (65 ≤ c.toNat ∧ c.toNat ≤ 90)) : c.toLower = c :=
  dif_neg fun hupper => hc ⟨hupper.1, hupper.2⟩

theorem toLower_of_isBlank {c : Char} (hc : Text.isBlank c = true) : c.toLower = c := by
  apply toLower_eq_self
  simp [Text.isBlank, Text.inRanges, Text.blankRanges] at hc
  omega

theorem dense_of_toLower {c : Char} (hc : Dense c.toLower) : Dense c := by
  constructor
  · rw [Bool.eq_false_iff]
    intro hblank
    rw [Dense, toLower_of_isBlank hblank, hblank] at hc
    exact Bool.noConfusion hc.1
  · rintro rfl
    exact hc.2 (by decide)

theorem dense_of_isDigit {c : Char} (hc : isDigit c = true) : Dense c := by
  rw [isDigit, Bool.and_eq_true, decide_eq_true_eq, decide_eq_true_eq] at hc
  have hlow : 48 ≤ c.toNat := hc.1
  have hhigh : c.toNat ≤ 57 := hc.2
  constructor
  · simp [Text.isBlank, Text.inRanges, Text.blankRanges]
    omega
  · rintro rfl
    revert hhigh
    decide

theorem dense_of_exponentPart {cs : List Char} {exponent : Int}
    (h : Json.exponentPart cs = some (exponent, cs.length)) : ∀ c ∈ cs, Dense c := by
  cases cs with
  | nil => simp
  | cons c rest =>
    have hbody : ∀ body : List Char, (body.takeWhile isDigit).length = body.length →
        ∀ d ∈ body, Dense d := by
      intro body hlength d hd
      have hall := (List.takeWhile_prefix isDigit).eq_of_length hlength
      rw [← hall] at hd
      exact dense_of_isDigit (List.mem_takeWhile_imp hd)
    unfold Json.exponentPart at h
    dsimp only at h
    rw [Option.ite_none_right_eq_some] at h
    obtain ⟨hmark, h⟩ := h
    have hc : Dense c := by
      rcases hmark with rfl | rfl
      · exact ⟨by decide, by decide⟩
      · exact ⟨by decide, by decide⟩
    rw [List.forall_mem_cons]
    refine ⟨hc, ?_⟩
    split at h
    all_goals
      rw [Option.ite_none_left_eq_some, Option.some.injEq, Prod.mk.injEq] at h
      simp only [List.length_cons] at h
    · next more =>
      rw [List.forall_mem_cons]
      exact ⟨⟨by decide, by decide⟩, hbody more (by omega)⟩
    · next more =>
      rw [List.forall_mem_cons]
      exact ⟨⟨by decide, by decide⟩, hbody more (by omega)⟩
    · exact hbody rest (by omega)

theorem drop_length_takeWhile (p : Char → Bool) (cs : List Char) :
    cs.drop (cs.takeWhile p).length = cs.dropWhile p := by
  induction cs with
  | nil => rfl
  | cons c cs ih =>
    by_cases hc : p c = true
    · simp [hc, ih]
    · simp [hc]

theorem dense_of_mem_takeWhile {cs : List Char} {c : Char} (hc : c ∈ cs.takeWhile isDigit) :
    Dense c :=
  dense_of_isDigit (List.mem_takeWhile_imp hc)

theorem dense_of_decimalOfText? {s : Bool} {cs : List Char} {x : Binary64}
    (h : decimalOfText? s cs = some x) : ∀ c ∈ cs, Dense c := by
  unfold decimalOfText? at h
  dsimp only at h
  rw [drop_length_takeWhile] at h
  rw [← List.takeWhile_append_dropWhile (p := isDigit) (l := cs), List.forall_mem_append]
  refine ⟨fun c hc => dense_of_mem_takeWhile hc, ?_⟩
  generalize cs.takeWhile isDigit = whole at h
  generalize cs.dropWhile isDigit = rest at h
  -- With or without a point, nothing or an exponent comes last.
  split at h
  all_goals
    rw [Option.ite_none_left_eq_some] at h
    replace h := h.2
  · next places =>
    rw [List.forall_mem_cons, ← List.takeWhile_append_dropWhile (p := isDigit) (l := places),
      List.forall_mem_append]
    refine ⟨⟨by decide, by decide⟩, fun c hc => dense_of_mem_takeWhile hc, ?_⟩
    split at h
    · next hnil => simp [show places.dropWhile isDigit = [] from hnil]
    · split at h
      · next hexponent =>
        rw [Option.ite_none_right_eq_some] at h
        exact dense_of_exponentPart (h.1 ▸ hexponent)
      · contradiction
  · split at h
    · next hnil => simp [show rest = [] from hnil]
    · split at h
      · next hexponent =>
        rw [Option.ite_none_right_eq_some] at h
        exact dense_of_exponentPart (h.1 ▸ hexponent)
      · contradiction

/-- What is read as a number has no blanks and no underscores. -/
theorem dense_of_numberOfChars? {cs : List Char} {x : Binary64}
    (h : numberOfChars? cs = some x) : ∀ c ∈ cs, Dense c := by
  have hsigned : (∀ c ∈ (takeSign cs).2, Dense c) → ∀ c ∈ cs, Dense c := by
    intro hrest
    unfold takeSign at hrest
    split at hrest
    · exact List.forall_mem_cons.mpr ⟨⟨by decide, by decide⟩, hrest⟩
    · exact List.forall_mem_cons.mpr ⟨⟨by decide, by decide⟩, hrest⟩
    · exact hrest
  apply hsigned
  have hword : ∀ word : String, word.toList.all (fun c => decide (Dense c)) = true →
      String.ofList ((takeSign cs).2.map Char.toLower) = word → ∀ c ∈ (takeSign cs).2, Dense c := by
    rintro word hdense rfl c hc
    apply dense_of_toLower
    apply of_decide_eq_true
    apply List.all_eq_true.mp hdense
    rw [String.toList_ofList]
    exact List.mem_map_of_mem hc
  unfold numberOfChars? at h
  dsimp only at h
  split at h
  · next hname =>
    rcases hname with hname | hname
    · exact hword _ (by decide) hname
    · exact hword _ (by decide) hname
  · split at h
    · next hname => exact hword _ (by decide) hname
    · exact dense_of_decimalOfText? h

/-! ## A text without blanks and underscores -/

/-- The text without blanks at its ends and without its underscores. -/
def bare (s : String) : List Char := (Text.trim Text.isBlank s.toList).filter (· != '_')

theorem trim_eq_self {cs : List Char} (h : ∀ c ∈ cs, Text.isBlank c = false) :
    Text.trim Text.isBlank cs = cs :=
  Text.trim_eq_self
    ⟨fun c hc => h c (List.mem_of_head? hc), fun c hc => h c (List.mem_of_getLast? hc)⟩

theorem filter_eq_self_of_dense {cs : List Char} (h : ∀ c ∈ cs, Dense c) :
    cs.filter (· != '_') = cs := by
  rw [List.filter_eq_self]
  intro c hc
  simpa using (h c hc).2

theorem bare_eq_self_of_dense {s : String} (h : ∀ c ∈ s.toList, Dense c) :
    bare s = s.toList := by
  rw [bare, trim_eq_self fun c hc => (h c hc).1, filter_eq_self_of_dense h]

/-- The number of a text is the number of the bare text. -/
theorem numberOfChars?_bare {s : String} {x : Binary64} (h : numberOfText s = .ok x) :
    numberOfChars? (bare s) = some x := by
  rw [numberOfText] at h
  split at h
  · next y hy =>
    rw [bare, filter_eq_self_of_dense (dense_of_numberOfChars? hy), hy]
    exact congrArg some (Except.ok.inj h)
  · split at h
    · next y hy =>
      obtain ⟨cs, hcs, hread⟩ := Option.bind_eq_some_iff.mp hy
      have hfilter : s.toList.filter (· != '_') = cs := by
        unfold withoutUnderscores? at hcs
        dsimp only at hcs
        rw [Option.ite_none_left_eq_some, Option.some.injEq] at hcs
        exact hcs.2
      have hdense := dense_of_numberOfChars? hread
      have hblank : ∀ c ∈ s.toList, Text.isBlank c = false := by
        intro c hc
        by_cases hunderscore : c = '_'
        · rw [hunderscore]
          decide
        · refine (hdense c ?_).1
          rw [← hfilter, List.mem_filter]
          exact ⟨hc, by simpa using hunderscore⟩
      rw [bare, trim_eq_self hblank, hfilter, hread]
      exact congrArg some (Except.ok.inj h)
    · exact nomatch h

/-! ## What is taken off an integer -/

theorem afterZeros?_split {last : Char} {cs ds : List Char} (h : afterZeros? last cs = some ds)
    (hlast : last = '0' ∨ last = '_') :
    ∃ zeros, last :: cs = zeros ++ ds ∧ ∀ c ∈ zeros, c = '0' ∨ c = '_' := by
  induction cs generalizing last with
  | nil =>
    injection h with h
    exact ⟨[], h, by simp⟩
  | cons c cs ih =>
    by_cases hpoint : c = '.'
    · subst hpoint
      injection h with h
      exact ⟨[], h, by simp⟩
    · rw [afterZeros?.eq_3 _ _ _ (by rintro rfl; exact hpoint rfl)] at h
      split at h
      · next hzero =>
        obtain ⟨zeros, hsplit, hzeros⟩ := ih h hzero
        exact ⟨last :: zeros, by rw [hsplit, List.cons_append],
          List.forall_mem_cons.mpr ⟨hlast, hzeros⟩⟩
      · rw [Option.ite_none_right_eq_some, Option.some.injEq] at h
        exact ⟨[last], by rw [← h.2]; rfl, by simpa using hlast⟩

/-- A number begins with a digit or a minus sign, and what is taken off its front are zeros
and underscores. -/
theorem withoutLeadingZeros?_split {cs ds : List Char} (h : withoutLeadingZeros? cs = some ds) :
    (∃ c rest, cs = c :: rest ∧ (isDigit c = true ∨ c = '-')) ∧
      ∃ zeros, cs = zeros ++ ds ∧ ∀ c ∈ zeros, c = '0' ∨ c = '_' := by
  cases cs with
  | nil => contradiction
  | cons c rest =>
    rw [withoutLeadingZeros?] at h
    split at h
    · next hzero =>
      subst hzero
      exact ⟨⟨_, _, rfl, Or.inl (by decide)⟩, afterZeros?_split h (Or.inl rfl)⟩
    · rw [Option.ite_none_right_eq_some, Option.some.injEq] at h
      exact ⟨⟨_, _, rfl, h.1⟩, [], h.2, by simp⟩

/-- What is taken off the end of a number is a point with zeros behind it. -/
theorem withoutZeroFraction_split (cs : List Char) :
    ∃ k, cs = withoutZeroFraction cs ++ pointed (List.replicate k '0') := by
  unfold withoutZeroFraction
  split
  · next places hplaces =>
    split
    · next hzeros =>
      rw [Bool.and_eq_true, Bool.not_eq_true', List.isEmpty_eq_false_iff,
        List.all_eq_true] at hzeros
      have hreplicate : places = List.replicate places.length '0' :=
        List.eq_replicate_iff.mpr ⟨rfl, fun c hc => by simpa using hzeros.2 c hc⟩
      refine ⟨places.length, ?_⟩
      rw [← hreplicate, Json.pointed_of_ne_nil hzeros.1, ← hplaces,
        List.takeWhile_append_dropWhile]
    · exact ⟨0, by simp [pointed]⟩
  · exact ⟨0, by simp [pointed]⟩

theorem exists_withoutZeroFraction_cons {c : Char} (hc : c ≠ '.') (rest : List Char) :
    ∃ part, withoutZeroFraction (c :: rest) = c :: part := by
  obtain ⟨k, hsplit⟩ := withoutZeroFraction_split (c :: rest)
  cases hpart : withoutZeroFraction (c :: rest) with
  | cons d part =>
    rw [hpart, List.cons_append, List.cons.injEq] at hsplit
    exact ⟨part, by rw [hsplit.1]⟩
  | nil =>
    rw [hpart, List.nil_append] at hsplit
    unfold pointed at hsplit
    split at hsplit
    · exact absurd hsplit (List.cons_ne_nil c rest)
    · exact absurd (List.cons.inj hsplit).1 hc

theorem filter_getD_withoutUnderscores? (cs : List Char) :
    ((withoutUnderscores? cs).getD cs).filter (· != '_') = cs.filter (· != '_') := by
  unfold withoutUnderscores?
  dsimp only
  split
  · rfl
  · rw [Option.getD_some, List.filter_filter]
    simp

theorem head?_withoutUnderscores? {c : Char} (hc : c ≠ '_') (cs : List Char) :
    ((withoutUnderscores? (c :: cs)).getD (c :: cs)).head? = some c := by
  unfold withoutUnderscores?
  dsimp only
  split
  · rfl
  · rw [Option.getD_some, List.filter_cons_of_pos (by simpa using hc)]
    rfl

theorem dense_of_mem_pointed {places : List Char} (h : ∀ c ∈ places, isDigit c = true) :
    ∀ c ∈ pointed places, Dense c := by
  cases places with
  | nil => simp [pointed]
  | cons c places =>
    rw [Json.pointed_of_ne_nil (List.cons_ne_nil c places), List.forall_mem_cons]
    exact ⟨⟨by decide, by decide⟩, fun d hd => dense_of_isDigit (h d hd)⟩

theorem isDigit_of_mem_zeros {k : Nat} : ∀ c ∈ List.replicate k '0', isDigit c = true := by
  intro c hc
  rw [List.eq_of_mem_replicate hc]
  decide

/-- The bare number in a text: zeros stand before it and a fraction of zeros behind it. -/
theorem bareNumber?_split {cs ds : List Char} (h : bareNumber? cs = some ds) :
    ∃ zeros k, cs.filter (· != '_') =
        zeros ++ (ds.filter (· != '_') ++ pointed (List.replicate k '0')) ∧
      (∀ c ∈ zeros, c = '0') ∧ (zeros = [] → ds.head? = cs.head?) := by
  simp only [bareNumber?, Option.bind_eq_bind, Option.bind_eq_some_iff, Option.pure_def,
    Option.some.injEq] at h
  obtain ⟨whole, hwhole, rfl⟩ := h
  obtain ⟨⟨c, rest, rfl, hc⟩, zeros, hsplit, hzeros⟩ := withoutLeadingZeros?_split hwhole
  obtain ⟨k, hfraction⟩ := withoutZeroFraction_split whole
  have hpoint := filter_eq_self_of_dense (dense_of_mem_pointed (isDigit_of_mem_zeros (k := k)))
  have hunderscore : c ≠ '_' := by
    rintro rfl
    revert hc
    decide
  refine ⟨zeros.filter (· != '_'), k, ?_, ?_, ?_⟩
  · rw [hsplit, List.filter_append, filter_getD_withoutUnderscores?]
    conv_lhs => rw [hfraction]
    rw [List.filter_append, hpoint]
  · intro d hd
    rw [List.mem_filter, bne_iff_ne] at hd
    exact (hzeros d hd.1).resolve_right hd.2
  · intro hnone
    cases zeros with
    | cons d zeros =>
      rw [List.cons_append, List.cons.injEq] at hsplit
      rw [List.filter_cons_of_pos (by simpa [← hsplit.1] using hunderscore)] at hnone
      exact absurd hnone (List.cons_ne_nil _ _)
    | nil =>
      rw [List.nil_append] at hsplit
      rw [← hsplit]
      have hnotPoint : c ≠ '.' := by
        rintro rfl
        revert hc
        decide
      obtain ⟨part, hpart⟩ := exists_withoutZeroFraction_cons hnotPoint rest
      rw [hpart]
      exact head?_withoutUnderscores? hunderscore part

/-! ## Texts that spell negative integers -/

theorem integerOfPlain_neg {cs : List Char} {n : Int} (h : integerOfPlain cs = .ok n)
    (hn : n < 0) :
    ∃ digits, cs = '-' :: digits ∧ (∀ c ∈ digits, isDigit c = true) ∧ 0 < natOfDigits digits := by
  unfold integerOfPlain at h
  split at h
  next negative magnitude hsign =>
  dsimp only at h
  split at h
  · contradiction
  split at h
  · contradiction
  split at h
  · contradiction
  next hlength =>
  have hall : magnitude.takeWhile isDigit = magnitude :=
    (List.takeWhile_prefix isDigit).eq_of_length_le (by omega)
  rw [hall] at h
  injection h with h
  have hdigits : ∀ c ∈ magnitude, isDigit c = true := by
    intro c hc
    rw [← hall] at hc
    exact List.mem_takeWhile_imp hc
  split at hsign
  · next rest =>
    obtain ⟨rfl, rfl⟩ := Prod.mk.inj hsign
    rw [if_pos rfl] at h
    exact ⟨rest, rfl, hdigits, by omega⟩
  · obtain ⟨rfl, rfl⟩ := Prod.mk.inj hsign
    rw [if_neg (by decide)] at h
    omega

theorem toLower_of_isDigit {c : Char} (hc : isDigit c = true) : c.toLower = c := by
  rw [isDigit, Bool.and_eq_true, decide_eq_true_eq, decide_eq_true_eq] at hc
  have hhigh : c.toNat ≤ 57 := hc.2
  apply toLower_eq_self
  omega

/-- What begins with a digit is no name of a value. -/
theorem numberOfChars?_eq_decimal {cs : List Char} {c : Char}
    (hcs : (takeSign cs).2.head? = some c) (hc : isDigit c = true) :
    numberOfChars? cs = decimalOfText? (takeSign cs).1 (takeSign cs).2 := by
  have hword : ∀ d ds, isDigit d = false →
      String.ofList ((takeSign cs).2.map Char.toLower) ≠ String.ofList (d :: ds) := by
    intro d ds hd hsame
    have hhead := congrArg List.head? (String.ofList_inj.mp hsame)
    rw [List.head?_map, hcs, Option.map_some, List.head?_cons, Option.some.injEq,
      toLower_of_isDigit hc] at hhead
    rw [hhead, hd] at hc
    contradiction
  unfold numberOfChars?
  dsimp only
  rw [if_neg, if_neg]
  · exact hword 'n' ['a', 'n'] (by decide)
  · rw [not_or]
    exact ⟨hword 'i' ['n', 'f'] (by decide),
      hword 'i' ['n', 'f', 'i', 'n', 'i', 't', 'y'] (by decide)⟩

theorem decimalOfText?_pointed (s : Bool) {digits places : List Char} (hne : digits ≠ [])
    (hdigits : ∀ c ∈ digits, isDigit c = true) (hplaces : ∀ c ∈ places, isDigit c = true) :
    decimalOfText? s (digits ++ pointed places) =
      some (.ofDecimal s (natOfDigits (digits ++ places)) (-(places.length : Int))) := by
  have hwhole : (digits ++ pointed places).takeWhile isDigit = digits := by
    apply Json.takeWhile_isDigit_append hdigits
    intro c hc
    cases places with
    | nil => simp [pointed] at hc
    | cons d places =>
      injection hc with hc
      rw [← hc]
      decide
  unfold decimalOfText?
  dsimp only
  rw [hwhole, List.drop_left]
  cases places with
  | nil => simp [pointed, hne]
  | cons d places =>
    have hall : (d :: places).takeWhile isDigit = d :: places :=
      List.takeWhile_eq_self_iff.mpr hplaces
    have hnone : (d :: places).dropWhile isDigit = [] := List.dropWhile_eq_nil_iff.mpr hplaces
    simp only [Json.pointed_of_ne_nil (List.cons_ne_nil d places), hall, hnone]
    simp

/-- Digits that do not spell zero are below zero behind a minus sign, whatever zeros come
behind a point. -/
theorem isNonnegative_of_decimal {digits : List Char} {k : Nat} {x : Binary64}
    (hdigits : ∀ c ∈ digits, isDigit c = true) (hpos : 0 < natOfDigits digits)
    (h : numberOfChars? ('-' :: (digits ++ pointed (List.replicate k '0'))) = some x) :
    x.isNonnegative = false := by
  have hne : digits ≠ [] := by
    rintro rfl
    exact absurd hpos (by decide)
  obtain ⟨d, ds, hcons⟩ := List.exists_cons_of_ne_nil hne
  have hsign : takeSign ('-' :: (digits ++ pointed (List.replicate k '0'))) =
      (true, digits ++ pointed (List.replicate k '0')) := rfl
  have hhead : (takeSign ('-' :: (digits ++ pointed (List.replicate k '0')))).2.head? = some d := by
    rw [hsign, hcons]
    rfl
  rw [numberOfChars?_eq_decimal hhead (hdigits d (by rw [hcons]; simp)), hsign,
    decimalOfText?_pointed _ hne hdigits isDigit_of_mem_zeros, Option.some.injEq] at h
  rw [← h, Bool.eq_false_iff, Ne, Binary64.isNonnegative_ofDecimal_iff]
  · exact Bool.noConfusion
  · rw [List.length_replicate, Json.natOfDigits_append, List.length_replicate]
    exact (Nat.le_mul_of_pos_right _ hpos).trans (Nat.le_add_right _ _)

/-- A minus sign behind zeros is no part of a number. -/
theorem numberOfChars?_dash {cs zeros rest : List Char}
    (hcs : (takeSign cs).2 = zeros ++ '-' :: rest) (hzeros : ∀ c ∈ zeros, c = '0')
    (hne : zeros ≠ []) : numberOfChars? cs = none := by
  have hdigits : ∀ c ∈ zeros, isDigit c = true := by
    intro c hc
    rw [hzeros c hc]
    decide
  have hends : Json.EndsNumber ('-' :: rest) := by
    intro c hc
    injection hc with hc
    rw [← hc]
    decide
  have hwhole : (zeros ++ '-' :: rest).takeWhile isDigit = zeros :=
    Json.takeWhile_isDigit_append hdigits fun c hc => (hends c hc).1
  obtain ⟨d, ds, hcons⟩ := List.exists_cons_of_ne_nil hne
  rw [numberOfChars?_eq_decimal (by rw [hcs, hcons]; rfl) (hdigits d (by rw [hcons]; simp)), hcs]
  unfold decimalOfText?
  dsimp only
  rw [hwhole, List.drop_left]
  simp [Json.exponentPart_eq_none hends]

/-- A minus sign comes first or behind zeros in the bare text of a negative integer. -/
theorem bare_of_plainInteger? {s : String} {digits : List Char}
    (h : plainInteger? s = some ('-' :: digits)) (hdigits : ∀ c ∈ digits, isDigit c = true) :
    ∃ zeros k, (∀ c ∈ zeros, c = '0') ∧
      (bare s = '-' :: (zeros ++ digits ++ pointed (List.replicate k '0')) ∨
        zeros ≠ [] ∧ ∃ rest, (takeSign (bare s)).2 = zeros ++ '-' :: rest) := by
  unfold plainInteger? at h
  split at h
  · next rest htrim =>
    obtain ⟨ds, hds, hcons⟩ := Option.map_eq_some_iff.mp h
    injection hcons with _ hsame
    rw [hsame] at hds
    obtain ⟨zeros, k, hsplit, hzeros, -⟩ := bareNumber?_split hds
    refine ⟨zeros, k, hzeros, Or.inl ?_⟩
    rw [filter_eq_self_of_dense fun c hc => dense_of_isDigit (hdigits c hc)] at hsplit
    rw [bare, htrim, List.filter_cons_of_pos (by decide), hsplit, List.append_assoc]
  · exact absurd h.symm (Option.some_ne_none _)
  · next rest hsecond htrim =>
    obtain ⟨zeros, k, hsplit, hzeros, hhead⟩ := bareNumber?_split h
    rw [List.filter_cons_of_pos (by decide), List.cons_append] at hsplit
    have hne : zeros ≠ [] := by
      intro hnone
      obtain ⟨tail, htail⟩ := List.head?_eq_some_iff.mp (hhead hnone).symm
      exact hsecond tail htail
    have hbare : bare s = '+' :: (zeros ++ '-' :: (digits.filter (· != '_') ++
        pointed (List.replicate k '0'))) := by
      rw [bare, htrim, List.filter_cons_of_pos (by decide), hsplit]
    refine ⟨zeros, k, hzeros, Or.inr ⟨hne, ?_⟩⟩
    rw [hbare]
    exact ⟨_, rfl⟩
  · next hfirst _ _ =>
    obtain ⟨zeros, k, hsplit, hzeros, hhead⟩ := bareNumber?_split h
    rw [List.filter_cons_of_pos (by decide), List.cons_append] at hsplit
    have hne : zeros ≠ [] := by
      intro hnone
      obtain ⟨tail, htail⟩ := List.head?_eq_some_iff.mp (hhead hnone).symm
      exact hfirst tail htail
    obtain ⟨d, ds, rfl⟩ := List.exists_cons_of_ne_nil hne
    refine ⟨d :: ds, k, hzeros, Or.inr ⟨hne, ?_⟩⟩
    rw [bare, hsplit, hzeros d (List.mem_cons_self ..)]
    exact ⟨_, rfl⟩

/-- A text that spells a negative integer spells no number that is at least zero. -/
theorem isNonnegative_of_integerOfText_neg {s : String} {n : Int} {x : Binary64}
    (hint : integerOfText s = .ok n) (hn : n < 0) (hx : numberOfText s = .ok x) :
    x.isNonnegative = false := by
  have hread := numberOfChars?_bare hx
  rw [integerOfText] at hint
  split at hint
  · next m hplain =>
    rw [Except.ok.inj hint] at hplain
    obtain ⟨digits, hdigits, hall, hpos⟩ := integerOfPlain_neg hplain hn
    have hdense : ∀ c ∈ s.toList, Dense c := by
      rw [hdigits, List.forall_mem_cons]
      exact ⟨⟨by decide, by decide⟩, fun c hc => dense_of_isDigit (hall c hc)⟩
    rw [bare_eq_self_of_dense hdense, hdigits, ← List.append_nil digits] at hread
    exact isNonnegative_of_decimal (k := 0) hall hpos hread
  · exact nomatch hint
  · split at hint
    · next m hspelled =>
      obtain ⟨cs, hcs, hplain⟩ := Option.map_eq_some_iff.mp hspelled
      rw [Except.ok.inj hint] at hplain
      obtain ⟨digits, rfl, hall, hpos⟩ := integerOfPlain_neg hplain hn
      obtain ⟨zeros, k, hzeros, hfront | ⟨hne, rest, hinner⟩⟩ := bare_of_plainInteger? hcs hall
      · have hdigits : ∀ c ∈ zeros ++ digits, isDigit c = true := by
          rw [List.forall_mem_append]
          exact ⟨fun c hc => by rw [hzeros c hc]; decide, hall⟩
        rw [hfront] at hread
        apply isNonnegative_of_decimal hdigits _ hread
        rw [Json.natOfDigits_append]
        exact Nat.add_pos_right _ hpos
      · rw [numberOfChars?_dash hinner hzeros hne] at hread
        exact absurd hread.symm (Option.some_ne_none x)
    · exact nomatch hint

end WorkflowEngine.Schema
