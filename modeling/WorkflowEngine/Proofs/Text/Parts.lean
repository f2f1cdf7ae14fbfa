import Mathlib.Data.List.DropRight
import WorkflowEngine.Text.Blank

/-!
# Parts of texts

A list is cut at the places of a separator, so its parts hold no separator and joining them gives
the list back.  Trimming takes elements of a class off both ends of a list: what is left begins
and ends with no such element, and nothing else that is left of the list does.
-/

namespace WorkflowEngine.Text

/-! ## Splitting -/

section Splitting

variable {α : Type} [DecidableEq α]

theorem splitAt_eq_splitOn (separator : α) (cs : List α) :
    splitAt separator cs = cs.splitOn separator := by
  induction cs with
  | nil => rw [splitAt, List.splitOn_nil]
  | cons c cs ih =>
    obtain ⟨part, parts, hparts⟩ :=
      List.exists_cons_of_ne_nil (List.splitOn_ne_nil separator cs)
    rw [splitAt, List.splitOn_cons_eq_if_modifyHead, ih, hparts]
    simp

theorem intercalate_splitAt (separator : α) (cs : List α) :
    [separator].intercalate (splitAt separator cs) = cs := by
  rw [splitAt_eq_splitOn, List.intercalate_splitOn]

theorem splitAt_intercalate {separator : α} {parts : List (List α)} (hne : parts ≠ [])
    (hparts : ∀ part ∈ parts, separator ∉ part) :
    splitAt separator ([separator].intercalate parts) = parts := by
  rw [splitAt_eq_splitOn, List.splitOn_intercalate separator hparts hne]

theorem not_mem_of_mem_splitAt {separator : α} {cs part : List α}
    (h : part ∈ splitAt separator cs) : separator ∉ part := by
  induction cs generalizing part with
  | nil =>
    obtain rfl := List.mem_singleton.mp h
    exact List.not_mem_nil
  | cons c cs ih =>
    rw [splitAt] at h
    split at h
    · rcases List.mem_cons.mp h with rfl | h
      · exact List.not_mem_nil
      · exact ih h
    · next hc =>
      split at h
      · next first rest hsplit =>
        rw [hsplit] at ih
        rcases List.mem_cons.mp h with rfl | h
        · rw [List.mem_cons, not_or]
          exact ⟨Ne.symm hc, ih (List.mem_cons_self ..)⟩
        · exact ih (List.mem_cons_of_mem _ h)
      · obtain rfl := List.mem_singleton.mp h
        exact fun hmem => hc (List.mem_singleton.mp hmem).symm

end Splitting

/-! ## Trimming -/

variable {α : Type} {drop : α → Bool} {before inner after cs : List α}

/-- A list neither begins nor ends with an element of a class. -/
structure Bare (drop : α → Bool) (cs : List α) : Prop where
  head : ∀ c ∈ cs.head?, drop c = false
  last : ∀ c ∈ cs.getLast?, drop c = false

theorem dropWhile_append_of_head (hbefore : ∀ c ∈ before, drop c = true)
    (hinner : ∀ c ∈ inner.head?, drop c = false) : (before ++ inner).dropWhile drop = inner := by
  rw [List.dropWhile_append_of_pos hbefore]
  cases inner with
  | nil => rfl
  | cons c rest => rw [List.dropWhile_cons_of_neg (by simp [hinner c rfl])]

/-- What stands between elements of the class is left by trimming. -/
theorem trim_append (hbefore : ∀ c ∈ before, drop c = true) (hafter : ∀ c ∈ after, drop c = true)
    (hinner : Bare drop inner) : trim drop (before ++ inner ++ after) = inner := by
  cases inner with
  | nil =>
    have hall : ∀ c ∈ before ++ [] ++ after, drop c = true := by
      simpa [or_imp, forall_and] using ⟨hbefore, hafter⟩
    rw [trim, List.dropWhile_eq_nil_iff.mpr hall]
    rfl
  | cons c rest =>
    have hfront : (before ++ (c :: rest) ++ after).dropWhile drop = c :: rest ++ after := by
      rw [List.append_assoc]
      exact dropWhile_append_of_head hbefore hinner.head
    have hback : (c :: rest ++ after).reverse.dropWhile drop = (c :: rest).reverse := by
      rw [List.reverse_append]
      refine dropWhile_append_of_head (by simpa using hafter) ?_
      rw [List.head?_reverse]
      exact hinner.last
    rw [trim, hfront, hback, List.reverse_reverse]

theorem trim_eq_self (h : Bare drop cs) : trim drop cs = cs := by
  have hnone : ∀ c ∈ ([] : List α), drop c = true := List.forall_mem_nil _
  simpa using trim_append hnone hnone h

theorem bare_trim (drop : α → Bool) (cs : List α) : Bare drop (trim drop cs) := by
  have htrim : trim drop cs = (cs.dropWhile drop).rdropWhile drop := rfl
  constructor
  · intro c hc
    obtain ⟨after, hafter⟩ := List.rdropWhile_prefix drop (cs.dropWhile drop)
    have hhead : (cs.dropWhile drop).head? = some c := by
      rw [← hafter, List.head?_append, ← htrim, hc]
      rfl
    have hnot := List.head?_dropWhile_not drop cs
    rwa [hhead] at hnot
  · intro c hc
    rw [htrim] at hc
    obtain ⟨hne, rfl⟩ := List.mem_getLast?_eq_getLast hc
    simpa using List.rdropWhile_last_not drop (cs.dropWhile drop) hne

/-- Trimming leaves what a list holds between elements of the class. -/
theorem exists_append_trim_append (drop : α → Bool) (cs : List α) :
    ∃ before after, cs = before ++ trim drop cs ++ after ∧
      (∀ c ∈ before, drop c = true) ∧ ∀ c ∈ after, drop c = true := by
  have hfront : cs.takeWhile drop ++ cs.dropWhile drop = cs := List.takeWhile_append_dropWhile
  have hback : (cs.dropWhile drop).reverse.takeWhile drop ++
      (cs.dropWhile drop).reverse.dropWhile drop = (cs.dropWhile drop).reverse :=
    List.takeWhile_append_dropWhile
  refine ⟨cs.takeWhile drop, ((cs.dropWhile drop).reverse.takeWhile drop).reverse, ?_, ?_, ?_⟩
  · rw [List.append_assoc, trim, ← List.reverse_append, hback, List.reverse_reverse, hfront]
  · exact fun c hc => List.mem_takeWhile_imp hc
  · exact fun c hc => List.mem_takeWhile_imp (List.mem_reverse.mp hc)

end WorkflowEngine.Text
