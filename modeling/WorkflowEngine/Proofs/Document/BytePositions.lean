import WorkflowEngine.Proofs.Document.Outcomes
import WorkflowEngine.Proofs.Occurrences
import WorkflowEngine.Proofs.Text.DecodableBytes

/-!
# Positions of bytes

A position counts lines and columns from one.  It tells which offset it is the position of: the
line says how many breaks come before, and the column how far behind the last of them the offset
is.  So later offsets have later positions.  Bytes that are not UTF-8 are reported at the first
byte behind their longest decodable part.
-/

namespace WorkflowEngine

namespace Position

variable {α : Type} (isBreak : α → Bool)

/-- The lexicographic order of lines and columns. -/
def Before (p q : Position) : Prop :=
  p.line < q.line ∨ p.line = q.line ∧ p.column < q.column

theorem Before.trans {p q r : Position} (hpq : p.Before q) (hqr : q.Before r) : p.Before r := by
  simp only [Before] at *
  omega

/-! ## One element more -/

theorem after_concat_of_break {x : α} (hx : isBreak x = true) (before : List α) :
    after isBreak (before ++ [x]) = ⟨(after isBreak before).line + 1, 1⟩ := by
  simp [after, hx]

theorem after_concat_of_not_break {x : α} (hx : isBreak x = false) (before : List α) :
    after isBreak (before ++ [x]) =
      ⟨(after isBreak before).line, (after isBreak before).column + 1⟩ := by
  simp [after, hx]

theorem before_after_concat (before : List α) (x : α) :
    (after isBreak before).Before (after isBreak (before ++ [x])) := by
  cases hx : isBreak x with
  | true =>
    rw [after_concat_of_break isBreak hx]
    exact Or.inl (Nat.lt_succ_self _)
  | false =>
    rw [after_concat_of_not_break isBreak hx]
    exact Or.inr ⟨rfl, Nat.lt_succ_self _⟩

/-- What stands later in a text has a later position. -/
theorem before_after_take {xs : List α} {j k : Nat} (hjk : j < k) (hk : k ≤ xs.length) :
    (after isBreak (xs.take j)).Before (after isBreak (xs.take k)) := by
  induction k, hjk using Nat.le_induction with
  | base =>
    rw [List.take_succ_eq_append_getElem hk]
    exact before_after_concat isBreak _ _
  | succ k _ ih =>
    rw [List.take_succ_eq_append_getElem hk]
    exact (ih (Nat.le_of_succ_le hk)).trans (before_after_concat isBreak _ _)

end Position

namespace Document

variable {bs : List UInt8} {k : Nat}

/-- Where a line begins: behind the break that ends the line before. -/
def lineStart (bs : List UInt8) : Nat → Nat
  | 0 | 1 => 0
  -- Lines are numbered from one and breaks from zero.
  | line + 2 => bs.idxOfNth 10 line + 1

theorem positionInBytes_succ_of_break (hk : k < bs.length) (hbreak : bs[k] = 10) :
    positionInBytes bs (k + 1) = ⟨(positionInBytes bs k).line + 1, 1⟩ := by
  rw [positionInBytes, List.take_succ_eq_append_getElem hk]
  exact Position.after_concat_of_break (· == 10) (beq_iff_eq.mpr hbreak) _

theorem positionInBytes_succ_of_not_break (hk : k < bs.length) (hbreak : bs[k] ≠ 10) :
    positionInBytes bs (k + 1) =
      ⟨(positionInBytes bs k).line, (positionInBytes bs k).column + 1⟩ := by
  rw [positionInBytes, List.take_succ_eq_append_getElem hk]
  exact Position.after_concat_of_not_break (· == 10) (beq_eq_false_iff_ne.mpr hbreak) _

/-- Behind a break, the next line begins. -/
theorem lineStart_of_break (hk : k < bs.length) (hbreak : bs[k] = 10) :
    lineStart bs ((positionInBytes bs k).line + 1) = k + 1 := by
  have hline : (positionInBytes bs k).line = (bs.take k).count 10 + 1 := rfl
  rw [hline, lineStart, idxOfNth_eq_of_count_take hk hbreak rfl]

/-- The offset is as far behind the beginning of its line as its column says. -/
theorem column_add_lineStart (hk : k ≤ bs.length) :
    (positionInBytes bs k).column - 1 + lineStart bs (positionInBytes bs k).line = k := by
  induction k with
  | zero => rfl
  | succ k ih =>
    by_cases hbreak : bs[k] = 10
    · rw [positionInBytes_succ_of_break hk hbreak, lineStart_of_break hk hbreak, Nat.sub_self,
        Nat.zero_add]
    · have hpos : 1 ≤ (positionInBytes bs k).column := Nat.succ_pos _
      have ih := ih (Nat.le_of_succ_le hk)
      rw [positionInBytes_succ_of_not_break hk hbreak]
      dsimp only
      omega

/-- Bytes without a mark that are not UTF-8 are reported where decoding them fails. -/
theorem outcome_of_decode_eq_error (hdetect : Encoding.detect bs = .utf8 false)
    (hdecode : Utf8.decode bs = .error k) :
    outcome (.bytes bs) = some (.error
      (.invalidJson (positionInBytes bs k).line (positionInBytes bs k).column)) := by
  have hfault : (Encoding.utf8 false).decode bs = .error ⟨k, bs, .utf8 false⟩ := by
    rw [Encoding.decode, if_neg Bool.false_ne_true, hdecode]
    rfl
  have hread : readSource (.bytes bs) =
      .error (.undecodable (positionInBytes bs k) (.utf8 false)) := by
    rw [readSource, hdetect, hfault]
  have hload : tryLoad (.bytes bs) =
      .error (.undecodable (positionInBytes bs k) (.utf8 false)) := by
    rw [tryLoad, hread]
  rw [outcome_of_error hload]
  rfl

/-- The position of an offset counts from one, its line counts the breaks before, and it tells the
offset, which is found again behind the beginning of the line; so different offsets have different
positions, in the same order.  Bytes that are taken for UTF-8 without a mark and are not decodable
are reported at the position of the first byte behind their longest decodable part. -/
theorem positionInBytes_tells_offset (bs : List UInt8) :
    (∀ k ≤ bs.length,
      1 ≤ (positionInBytes bs k).line ∧ 1 ≤ (positionInBytes bs k).column ∧
      (positionInBytes bs k).line = (bs.take k).count 10 + 1 ∧
      (positionInBytes bs k).column - 1 + lineStart bs (positionInBytes bs k).line = k) ∧
    (∀ j ≤ bs.length, ∀ k ≤ bs.length, positionInBytes bs j = positionInBytes bs k → j = k) ∧
    (∀ j k, j < k → k ≤ bs.length → (positionInBytes bs j).Before (positionInBytes bs k)) ∧
    (Encoding.detect bs = .utf8 false → ¬ Utf8.Decodable bs →
      ∃ k < bs.length, Utf8.LongestDecodable bs k ∧
        outcome (.bytes bs) = some (.error
          (.invalidJson (positionInBytes bs k).line (positionInBytes bs k).column))) := by
  refine ⟨?_, ?_, fun j k hjk hk => Position.before_after_take _ hjk hk, ?_⟩
  · intro k hk
    exact ⟨Nat.succ_pos _, Nat.succ_pos _, rfl, column_add_lineStart hk⟩
  · intro j hj k hk h
    rw [← column_add_lineStart hj, ← column_add_lineStart hk, h]
  · intro hdetect hbs
    obtain ⟨k, hdecode, hk, hlongest⟩ := Utf8.exists_longestDecodable hbs
    exact ⟨k, hk, hlongest, outcome_of_decode_eq_error hdetect hdecode⟩

/-- An object on two lines; a text on the second one holds a byte that belongs to no character. -/
example : outcome (.bytes [123, 10, 32, 32, 34, 120, 34, 58, 32, 34, 255, 34, 125]) =
    some (.error (.invalidJson 2 9)) := rfl

end Document

end WorkflowEngine
