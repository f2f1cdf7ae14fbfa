import Mathlib.Data.List.Basic
import WorkflowEngine.Json.Reader
import WorkflowEngine.Json.Writer

/-!
# Strings are read as written

Each character inside a string is written as itself or as an escape, and the reader
takes either for that character.  So the reader undoes the writer character by
character, whatever follows the closing quote.
-/

namespace WorkflowEngine.Json

/-! ## Numeric escapes -/

theorem hexValue?_hexDigit {n : Nat} (hn : n < 16) : hexValue? (hexDigit n) = some n := by
  have hall : ∀ n < 16, hexValue? (hexDigit n) = some n := by decide
  exact hall n hn

/-- Four hexadecimal digits of a unit spell the unit. -/
theorem hexUnit?_hexDigits {n : Nat} (hn : n < 0x10000) (rest : List CodePoint) :
    hexUnit? (.char (hexDigit (n / 4096 % 16)) :: .char (hexDigit (n / 256 % 16)) ::
      .char (hexDigit (n / 16 % 16)) :: .char (hexDigit (n % 16)) :: rest) = some (n, rest) := by
  have hdigit : ∀ k, hexValue? (hexDigit (k % 16)) = some (k % 16) :=
    fun k => hexValue?_hexDigit (Nat.mod_lt k (by omega))
  have hsum : n / 4096 % 16 * 4096 + n / 256 % 16 * 256 + n / 16 % 16 * 16 + n % 16 = n := by
    omega
  simp only [hexUnit?, hdigit, bind, Option.bind, hsum]
  rfl

/-- A unit that belongs to no pair is read as its character. -/
theorem readUnit_unitEscape {n : Nat} (hn : n < 0xD800) (fromLetter : List CodePoint)
    (next : CodePoint) (rest : List CodePoint) :
    readUnit fromLetter (.char (hexDigit (n / 4096 % 16)) :: .char (hexDigit (n / 256 % 16)) ::
      .char (hexDigit (n / 16 % 16)) :: .char (hexDigit (n % 16)) :: next :: rest) =
        .ok (.char (Char.ofNat n), next :: rest) := by
  have hlow : isHighSurrogate n = false := by
    simp only [isHighSurrogate, Bool.and_eq_false_iff, decide_eq_false_iff_not]
    exact Or.inl (by omega)
  have hchar : CodePoint.ofNat n = .char (Char.ofNat n) := by
    have hvalid : n.isValidChar := Or.inl hn
    rw [CodePoint.ofNat, if_pos hvalid]
  unfold readUnit
  rw [if_neg (by simp), hexUnit?_hexDigits (by omega)]
  dsimp only
  split
  · simp [hlow, hchar]
  · rw [hchar]

/-! ## Strings -/

/-- A character that has no escape is not a quote, a backslash or a control
character. -/
theorem escape_plain {c : Char} (hquote : c ≠ '"') (hbackslash : c ≠ '\\')
    (hcontrol : ¬ c.toNat < 0x20) : escape false c = [c] := by
  have hlow : ∀ d : Char, d.toNat < 0x20 → c ≠ d := by
    rintro d hd rfl
    exact hcontrol hd
  have hn : c ≠ '\n' := hlow _ (by decide)
  have hr : c ≠ '\r' := hlow _ (by decide)
  have ht : c ≠ '\t' := hlow _ (by decide)
  have hb : ¬ c.toNat = 8 := by omega
  have hf : ¬ c.toNat = 12 := by omega
  simp [escape, hquote, hbackslash, hn, hr, ht, hb, hf, hcontrol]

/-- Control characters have escapes of two characters, or numeric ones. -/
theorem escape_control {c : Char} (hcontrol : c.toNat < 0x20) :
    (∃ e, escape false c = ['\\', e] ∧ simpleEscape? e = some c) ∨
      escape false c = unitEscape c.toNat := by
  have hquote : c ≠ '"' := by
    rintro rfl
    revert hcontrol
    decide
  have hbackslash : c ≠ '\\' := by
    rintro rfl
    revert hcontrol
    decide
  by_cases hn : c = '\n'
  · exact Or.inl ⟨'n', by simp [escape, hn], by rw [hn]; decide⟩
  by_cases hr : c = '\r'
  · exact Or.inl ⟨'r', by simp [escape, hr], by rw [hr]; decide⟩
  by_cases ht : c = '\t'
  · exact Or.inl ⟨'t', by simp [escape, ht], by rw [ht]; decide⟩
  by_cases hb : c.toNat = 8
  · refine Or.inl ⟨'b', by simp [escape, hquote, hbackslash, hn, hr, ht, hb], ?_⟩
    rw [← Char.ofNat_toNat c, hb]
    decide
  by_cases hf : c.toNat = 12
  · refine Or.inl ⟨'f', by simp [escape, hquote, hbackslash, hn, hr, ht, hf], ?_⟩
    rw [← Char.ofNat_toNat c, hf]
    decide
  · refine Or.inr ?_
    have hunit : c.toNat < 0x10000 := by omega
    simp [escape, hquote, hbackslash, hn, hr, ht, hb, hf, hcontrol, numericEscape, hunit]

/-- A two-character escape is read as its character. -/
theorem readString_simpleEscape {opening seen rest : List CodePoint} {e c : Char} {fuel : Nat}
    (he : simpleEscape? e = some c) :
    readString opening (fuel + 1) seen (.char '\\' :: .char e :: rest) =
      readString opening fuel (.char c :: seen) rest := by
  have hletter : e ≠ 'u' := by
    rintro rfl
    have hnone : simpleEscape? 'u' = none := by decide
    rw [hnone] at he
    contradiction
  rw [readString.eq_def]
  simp only
  split
  · next hnone =>
    rw [hnone] at he
    contradiction
  · next d hd =>
    rw [hd, Option.some.injEq] at he
    rw [he]

/-- The reader takes what is written for a character for that character.  More text has
to follow, as it does inside a string. -/
theorem readString_escape {opening seen rest : List CodePoint} {next : CodePoint} {c : Char}
    {fuel : Nat} :
    readString opening (fuel + 1) seen ((escape false c).map .char ++ next :: rest) =
      readString opening fuel (.char c :: seen) (next :: rest) := by
  by_cases hquote : c = '"'
  · subst hquote
    exact readString_simpleEscape (by decide)
  by_cases hbackslash : c = '\\'
  · subst hbackslash
    exact readString_simpleEscape (by decide)
  by_cases hcontrol : c.toNat < 0x20
  · rcases escape_control hcontrol with ⟨e, hescape, he⟩ | hescape
    · rw [hescape]
      exact readString_simpleEscape he
    · rw [hescape]
      have hunit := readUnit_unitEscape (n := c.toNat) (by omega)
        (.char 'u' :: .char (hexDigit (c.toNat / 4096 % 16)) ::
          .char (hexDigit (c.toNat / 256 % 16)) :: .char (hexDigit (c.toNat / 16 % 16)) ::
          .char (hexDigit (c.toNat % 16)) :: next :: rest) next rest
      simp only [unitEscape, List.map_cons, List.map_nil, List.cons_append, List.nil_append]
      rw [readString, hunit]
      simp [Char.ofNat_toNat]
  · rw [escape_plain hquote hbackslash hcontrol, List.map_singleton, List.singleton_append]
    simp [readString, hbackslash, hcontrol]

/-- Reading goes through the written characters up to the closing quote. -/
theorem readString_flatMap_escape {opening seen rest : List CodePoint} {cs : List Char}
    {fuel : Nat} (hfuel : cs.length < fuel) :
    readString opening fuel seen ((cs.flatMap (escape false)).map .char ++ .char '"' :: rest) =
      .ok (Text.ofPoints (seen.reverse ++ cs.map .char), rest) := by
  induction cs generalizing seen fuel with
  | nil =>
    obtain ⟨fuel, rfl⟩ : ∃ n, fuel = n + 1 := ⟨fuel - 1, by simp at hfuel; omega⟩
    simp [readString]
  | cons c cs ih =>
    rw [List.length_cons] at hfuel
    obtain ⟨fuel, rfl⟩ : ∃ n, fuel = n + 1 := ⟨fuel - 1, by omega⟩
    rw [List.flatMap_cons, List.map_append, List.append_assoc]
    obtain ⟨next, more, hmore⟩ : ∃ next more,
        (cs.flatMap (escape false)).map CodePoint.char ++ .char '"' :: rest = next :: more :=
      List.exists_cons_of_ne_nil (by simp)
    rw [hmore, readString_escape, ← hmore, ih (by omega)]
    simp

theorem escape_ne_nil (c : Char) : escape false c ≠ [] := by
  by_cases hquote : c = '"'
  · simp [escape, hquote]
  by_cases hbackslash : c = '\\'
  · simp [escape, hbackslash]
  by_cases hcontrol : c.toNat < 0x20
  · rcases escape_control hcontrol with ⟨e, hescape, -⟩ | hescape
    · simp [hescape]
    · simp [hescape, unitEscape]
  · simp [escape_plain hquote hbackslash hcontrol]

theorem length_le_length_flatMap_escape (cs : List Char) :
    cs.length ≤ (cs.flatMap (escape false)).length := by
  induction cs with
  | nil => simp
  | cons c cs ih =>
    have hc := List.length_pos_of_ne_nil (escape_ne_nil c)
    rw [List.flatMap_cons, List.length_append, List.length_cons]
    omega

/-- A written string is read back, whatever follows it. -/
theorem readString_quoteChars {t : Text} {rest body : List Char} {fuel : Nat}
    (ht : t.isProper = true) (hbody : quoteChars false t ++ rest = '"' :: body)
    (hfuel : body.length ≤ fuel) :
    readString (.char '"' :: body.map .char) fuel [] (body.map .char) =
      .ok (t, rest.map .char) := by
  obtain ⟨s, rfl⟩ := Text.isProper_iff.mp ht
  have hsplit : body = s.toList.flatMap (escape false) ++ '"' :: rest := by
    simpa [quoteChars_proper] using hbody.symm
  have hlength := length_le_length_flatMap_escape s.toList
  have henough : s.toList.length < fuel := by
    rw [hsplit, List.length_append, List.length_cons] at hfuel
    omega
  rw [hsplit, List.map_append, List.map_cons, readString_flatMap_escape henough]
  simp

end WorkflowEngine.Json
