import Mathlib.Data.List.TakeWhile
import Mathlib.Tactic.SplitIfs
import WorkflowEngine.Proofs.Json.Content
import WorkflowEngine.Proofs.Number.Digits

/-!
# What is read can be stored

A value that was read from a text is storable: the reader accepts no integer that is too
long, and of two members with one key it keeps only one.
-/

namespace WorkflowEngine

namespace Members

theorem keys_put (o : Members) (key : Text) (value : Json) :
    (put o key value).map Prod.fst =
      if key ∈ o.map Prod.fst then o.map Prod.fst else o.map Prod.fst ++ [key] := by
  induction o with
  | nil => simp [put]
  | cons m o ih =>
    obtain ⟨k, v⟩ := m
    rw [put]
    by_cases hk : k = key
    · simp [hk]
    · rw [if_neg hk, List.map_cons, ih]
      by_cases hmem : key ∈ o.map Prod.fst
      · rw [List.map_cons, if_pos hmem, if_pos (List.mem_cons_of_mem _ hmem)]
      · have hnot : key ∉ k :: o.map Prod.fst := by
          rw [List.mem_cons, not_or]
          exact ⟨fun heq => hk heq.symm, hmem⟩
        rw [List.map_cons, if_neg hmem, if_neg hnot]
        rfl

theorem nodup_keys_put {o : Members} (ho : (o.map Prod.fst).Nodup) (key : Text)
    (value : Json) : ((put o key value).map Prod.fst).Nodup := by
  rw [keys_put]
  split
  · exact ho
  · next hkey => exact ho.append (List.nodup_singleton key) (by simpa using hkey)

theorem mem_put {o : Members} {key : Text} {value : Json} {m : Text × Json}
    (hm : m ∈ put o key value) : m ∈ o ∨ m = (key, value) := by
  induction o with
  | nil => exact Or.inr (List.mem_singleton.mp hm)
  | cons n o ih =>
    obtain ⟨k, v⟩ := n
    rw [put] at hm
    split at hm
    · rcases List.mem_cons.mp hm with hm | hm
      · exact Or.inr hm
      · exact Or.inl (List.mem_cons_of_mem _ hm)
    · rcases List.mem_cons.mp hm with hm | hm
      · exact Or.inl (hm ▸ List.mem_cons_self ..)
      · exact (ih hm).imp_left (List.mem_cons_of_mem _)

theorem foldl_put_invariants {pairs o : Members} (ho : (o.map Prod.fst).Nodup) :
    (((pairs.foldl (fun o p => put o p.1 p.2) o).map Prod.fst).Nodup) ∧
      ∀ m ∈ pairs.foldl (fun o p => put o p.1 p.2) o, m ∈ o ∨ m ∈ pairs := by
  induction pairs generalizing o with
  | nil => exact ⟨ho, fun m hm => Or.inl hm⟩
  | cons p pairs ih =>
    obtain ⟨hnodup, hmem⟩ := ih (nodup_keys_put ho p.1 p.2)
    refine ⟨hnodup, fun m hm => ?_⟩
    rcases hmem m hm with hm | hm
    · rcases mem_put hm with hm | rfl
      · exact Or.inl hm
      · exact Or.inr (List.mem_cons_self ..)
    · exact Or.inr (List.mem_cons_of_mem _ hm)

theorem nodup_keys_ofPairs (pairs : List (Text × Json)) :
    ((ofPairs pairs).map Prod.fst).Nodup :=
  (foldl_put_invariants (o := []) List.nodup_nil).1

theorem mem_of_mem_ofPairs {pairs : List (Text × Json)} {m : Text × Json}
    (hm : m ∈ ofPairs pairs) : m ∈ pairs := by
  rcases (foldl_put_invariants (o := []) List.nodup_nil).2 m hm with hm | hm
  · contradiction
  · exact hm

end Members

namespace Json

theorem isDigit_of_mem_integerPart {cs : List Char} {c : Char} (hc : c ∈ integerPart cs) :
    isDigit c = true := by
  unfold integerPart at hc
  split at hc
  · rw [List.mem_singleton.mp hc]
    decide
  · exact List.mem_takeWhile_imp hc

theorem value_eq_of_ok_eq {γ α : Type} {x y : α} {rest other : List γ}
    (h : (Except.ok (x, rest) : Except Stop (α × List γ)) = .ok (y, other)) : x = y :=
  (Prod.mk.inj (Except.ok.inj h)).1

theorem storable_of_readNumber {start cs rest : List Char} {negative : Bool} {j : Json}
    (h : readNumber start negative cs = .ok (j, rest)) : Storable j := by
  have hlength : ¬ digitLimit < (integerPart cs).length →
      (digitChars (natOfDigits (integerPart cs))).length ≤ digitLimit := by
    intro hlimit
    rw [length_digitChars_le_iff (by decide)]
    exact Nat.lt_of_lt_of_le (natOfDigits_lt fun c hc => isDigit_of_mem_integerPart hc)
      (Nat.pow_le_pow_right (by decide) (Nat.not_lt.mp hlimit))
  unfold readNumber at h
  dsimp only at h
  split_ifs at h with hempty hinteger hlimit hsign
  · contradiction
  · rw [← value_eq_of_ok_eq h]
    exact .int (by simpa using hlength hlimit)
  · rw [← value_eq_of_ok_eq h]
    exact .int (by simpa using hlength hlimit)
  · rw [← value_eq_of_ok_eq h]
    exact .float _

theorem storable_of_mem_words {word : String} {j : Json} (h : (word, j) ∈ words) :
    Storable j := by
  have hall : ∀ entry ∈ words, Storable entry.2 := by
    simp only [words, List.forall_mem_cons]
    exact ⟨.null, .bool true, .bool false, .float _, .float _, .float _, by simp⟩
  exact hall _ h

theorem storable_of_readPlain {cs rest : List Char} {j : Json}
    (h : readPlain cs = .ok (j, rest)) : Storable j := by
  unfold readPlain at h
  split at h
  · next found hfound =>
    injection h with hpair
    obtain ⟨entry, hentry, hafter⟩ := List.exists_of_findSome?_eq_some hfound
    obtain ⟨after, -, hvalue⟩ := Option.map_eq_some_iff.mp hafter
    rw [hpair] at hvalue
    rw [← (Prod.mk.inj hvalue).1]
    exact storable_of_mem_words hentry
  · split at h
    · exact storable_of_readNumber h
    · exact storable_of_readNumber h

theorem readLeaf_eq_ok_iff {ps rest : List CodePoint} {j : Json} :
    readLeaf ps = .ok (j, rest) ↔
      ∃ left, readPlain (ps.map CodePoint.shown) = .ok (j, left) ∧
        rest = ps.drop (ps.length - left.length) := by
  rw [readLeaf]
  cases readPlain (ps.map CodePoint.shown) with
  | error stop => simp [Except.map]
  | ok result =>
    obtain ⟨value, left⟩ := result
    simp only [Except.map, Except.ok.injEq, Prod.mk.injEq]
    constructor
    · rintro ⟨rfl, rfl⟩
      exact ⟨left, ⟨rfl, rfl⟩, rfl⟩
    · rintro ⟨-, ⟨rfl, rfl⟩, rfl⟩
      exact ⟨rfl, rfl⟩

theorem storable_of_readLeaf {ps rest : List CodePoint} {j : Json}
    (h : readLeaf ps = .ok (j, rest)) : Storable j := by
  obtain ⟨left, hplain, -⟩ := readLeaf_eq_ok_iff.mp h
  exact storable_of_readPlain hplain

/-- Whatever a reader accepts has a property. -/
def Accepts {α : Type} (read : Reader CodePoint α) (p : α → Prop) : Prop :=
  ∀ ps x rest, read ps = .ok (x, rest) → p x

theorem accepts_readValue_succ {fuel : Nat}
    (hitems : Accepts (readItems fuel) fun xs => ∀ x ∈ xs, Storable x)
    (hmembers : Accepts (readMembers fuel) fun ms => ∀ m ∈ ms, Storable m.2) :
    Accepts (readValue (fuel + 1)) Storable := by
  intro cs j rest h
  rw [readValue.eq_def] at h
  dsimp only at h
  split at h
  · split at h
    · contradiction
    · rw [← value_eq_of_ok_eq h]
      exact .str _
  · split at h
    · rw [← value_eq_of_ok_eq h]
      exact .arr (by simp)
    · split at h
      · contradiction
      · next xs after hread =>
        rw [← value_eq_of_ok_eq h]
        exact .arr (hitems _ xs after hread)
  · split at h
    · rw [← value_eq_of_ok_eq h]
      exact .obj List.nodup_nil (by simp)
    · split at h
      · contradiction
      · next pairs after hread =>
        rw [← value_eq_of_ok_eq h]
        exact .obj (Members.nodup_keys_ofPairs pairs) fun m hm =>
          hmembers _ pairs after hread m (Members.mem_of_mem_ofPairs hm)
  · exact storable_of_readLeaf h

theorem accepts_readItems_succ {fuel : Nat} (hvalue : Accepts (readValue fuel) Storable)
    (hitems : Accepts (readItems fuel) fun xs => ∀ x ∈ xs, Storable x) :
    Accepts (readItems (fuel + 1)) fun xs => ∀ x ∈ xs, Storable x := by
  intro cs xs rest h
  rw [readItems] at h
  split at h
  · contradiction
  · next x after hx =>
    split at h
    · rw [← value_eq_of_ok_eq h]
      intro y hy
      rw [List.mem_singleton.mp hy]
      exact hvalue _ x after hx
    · split at h
      · contradiction
      · next ys more hys =>
        rw [← value_eq_of_ok_eq h]
        intro y hy
        rcases List.mem_cons.mp hy with rfl | hy
        · exact hvalue _ _ after hx
        · exact hitems _ ys more hys y hy
    · contradiction

theorem accepts_readMembers_succ {fuel : Nat} (hvalue : Accepts (readValue fuel) Storable)
    (hmembers : Accepts (readMembers fuel) fun ms => ∀ m ∈ ms, Storable m.2) :
    Accepts (readMembers (fuel + 1)) fun ms => ∀ m ∈ ms, Storable m.2 := by
  intro cs ms rest h
  rw [readMembers.eq_def] at h
  dsimp only at h
  split at h
  · split at h
    · contradiction
    · split at h
      · split at h
        · contradiction
        · next v after hv =>
          split at h
          · rw [← value_eq_of_ok_eq h]
            intro m hm
            rw [List.mem_singleton.mp hm]
            exact hvalue _ v after hv
          · split at h
            · contradiction
            · next pairs more hpairs =>
              rw [← value_eq_of_ok_eq h]
              intro m hm
              rcases List.mem_cons.mp hm with rfl | hm
              · exact hvalue _ v after hv
              · exact hmembers _ pairs more hpairs m hm
          · contradiction
      · contradiction
  · contradiction

/-- The three readers call each other with less fuel, so what they accept is shown for all
of them at once. -/
theorem accepts_readers (fuel : Nat) :
    Accepts (readValue fuel) Storable ∧
      (Accepts (readItems fuel) fun xs => ∀ x ∈ xs, Storable x) ∧
      Accepts (readMembers fuel) fun ms => ∀ m ∈ ms, Storable m.2 := by
  induction fuel with
  | zero =>
    refine ⟨?_, ?_, ?_⟩
    · intro cs j rest h
      simp [readValue, stopAt] at h
    · intro cs xs rest h
      simp [readItems, stopAt] at h
    · intro cs ms rest h
      simp [readMembers, stopAt] at h
  | succ fuel ih =>
    obtain ⟨hvalue, hitems, hmembers⟩ := ih
    exact ⟨accepts_readValue_succ hitems hmembers, accepts_readItems_succ hvalue hitems,
      accepts_readMembers_succ hvalue hmembers⟩

/-- Code points are read as a value where blanks alone stand before and behind the value. -/
theorem readPoints_eq_ok_iff {ps : List CodePoint} {j : Json} :
    readPoints ps = .ok j ↔
      ∃ after, readValue (fuelFor ps) (skipBlanks ps) = .ok (j, after) ∧ skipBlanks after = [] := by
  rw [readPoints, mapError_eq_ok_iff, readWhole]
  cases readValue (fuelFor ps) (skipBlanks ps) with
  | error stop => simp
  | ok result =>
    obtain ⟨value, after⟩ := result
    dsimp only
    split
    · next hnil => simp [hnil]
    · next hextra =>
      have hne : skipBlanks after ≠ [] := hextra
      simp [stopAt, hne]

/-- What is read from a text is storable. -/
theorem storable_of_readPoints {ps : List CodePoint} {j : Json} (h : readPoints ps = .ok j) :
    Storable j := by
  obtain ⟨after, hvalue, -⟩ := readPoints_eq_ok_iff.mp h
  exact (accepts_readers _).1 _ _ _ hvalue

theorem storable_of_read {text : Text} {j : Json} (h : read text = .ok j) : Storable j := by
  rw [read] at h
  split at h
  · split at h
    · contradiction
    · exact storable_of_readPoints h
  · exact storable_of_readPoints h

end Json

end WorkflowEngine
