import Mathlib.Data.List.Count
import Mathlib.Data.List.Nodup
import Mathlib.Data.List.Perm.Basic

/-!
# Items in the order of an occurrence

The items that occur more than `n` times in a list, each of them once, in the order of their
occurrences with the number `n`, where the first occurrence has the number zero.  So `n = 0` gives
the items in the order in which they are met, and `n = 1` gives those that are met again, in the
order in which that happens.  An item that is added to the list comes last among them if this is
its occurrence with the number `n`, and changes nothing if it is not.
-/

namespace WorkflowEngine

variable {α : Type} [DecidableEq α] {n : Nat} {xs listed : List α} {x : α}

/-- A list holds what occurs more than `n` times in another one, in the order of the occurrences
with the number `n`; so it holds nothing twice. -/
structure ByOccurrence (n : Nat) (xs listed : List α) : Prop where
  mem_iff : ∀ x, x ∈ listed ↔ n < xs.count x
  inOrder : listed.Pairwise fun x y => xs.idxOfNth x n < xs.idxOfNth y n

/-! ## Places of occurrences -/

/-- Where an item stands is the place of the occurrence numbered by those before it. -/
theorem idxOfNth_eq_of_count_take {i : Nat} (hi : i < xs.length) (hx : xs[i] = x)
    (hbefore : (xs.take i).count x = n) : xs.idxOfNth x n = i := by
  rw [← hbefore, ← List.countBefore_eq_count_take]
  exact List.idxOfNth_countBefore_of_lt_length_of_beq (beq_iff_eq.mpr hx)

/-- An occurrence keeps its place when the list grows. -/
theorem idxOfNth_append_of_lt_count (hx : n < xs.count x) (ys : List α) :
    (xs ++ ys).idxOfNth x n = xs.idxOfNth x n := by
  have hlt : xs.idxOfNth x n < xs.length := List.idxOfNth_lt_length_of_lt_count hx
  have hlonger : xs.idxOfNth x n < (xs ++ ys).length := by
    rw [List.length_append]
    omega
  refine idxOfNth_eq_of_count_take hlonger ?_ ?_
  · rw [List.getElem_append_left hlt, List.getElem_idxOfNth_eq]
  · rw [List.take_append_of_le_length (Nat.le_of_lt hlt), ← List.countBefore_eq_count_take,
      List.countBefore_idxOfNth_of_lt_count hx]

/-- An item that is added to a list is the next occurrence of that item. -/
theorem idxOfNth_concat_self (xs : List α) (x : α) :
    (xs ++ [x]).idxOfNth x (xs.count x) = xs.length :=
  idxOfNth_eq_of_count_take (by simp) (by simp) (by simp)

namespace ByOccurrence

/-! ## Lists by occurrence -/

theorem nil : ByOccurrence n ([] : List α) [] := ⟨by simp, .nil⟩

theorem nodup (h : ByOccurrence n xs listed) : listed.Nodup :=
  h.inOrder.imp fun hlt => by
    rintro rfl
    exact absurd hlt (Nat.lt_irrefl _)

/-- Only one list holds the items by their occurrences. -/
theorem unique {other : List α} (h : ByOccurrence n xs listed) (hother : ByOccurrence n xs other) :
    listed = other := by
  have hperm : listed.Perm other := by
    rw [List.perm_ext_iff_of_nodup h.nodup hother.nodup]
    intro x
    rw [h.mem_iff, hother.mem_iff]
  refine hperm.eq_of_pairwise ?_ h.inOrder hother.inOrder
  intro x y _ _ hxy hyx
  exact absurd hxy (Nat.lt_asymm hyx)

theorem eq_nil_iff (h : ByOccurrence n xs listed) : listed = [] ↔ ∀ x, xs.count x ≤ n := by
  rw [List.eq_nil_iff_forall_not_mem]
  exact forall_congr' fun x => by rw [h.mem_iff, Nat.not_lt]

/-- One more item comes last if this is its occurrence with the number of the list. -/
theorem concat (h : ByOccurrence n xs listed) (x : α) :
    ByOccurrence n (xs ++ [x]) (if xs.count x = n then listed ++ [x] else listed) := by
  have hkept : ∀ y ∈ listed, (xs ++ [x]).idxOfNth y n = xs.idxOfNth y n :=
    fun y hy => idxOfNth_append_of_lt_count ((h.mem_iff y).mp hy) [x]
  have hinOrder : listed.Pairwise fun y z =>
      (xs ++ [x]).idxOfNth y n < (xs ++ [x]).idxOfNth z n := by
    refine h.inOrder.imp_of_mem fun hy hz hlt => ?_
    rwa [hkept _ hy, hkept _ hz]
  have hcount : ∀ y, (xs ++ [x]).count y = xs.count y + if x = y then 1 else 0 := by
    intro y
    rw [List.count_append, List.count_singleton]
    simp only [beq_iff_eq]
  split
  · next hx =>
    constructor
    · intro y
      rw [List.mem_append, List.mem_singleton, h.mem_iff, hcount]
      by_cases hy : x = y
      · subst hy
        simp [hx]
      · simp [hy, Ne.symm hy]
    · refine List.pairwise_append.mpr ⟨hinOrder, List.pairwise_singleton _ _, ?_⟩
      intro y hy z hz
      obtain rfl := List.mem_singleton.mp hz
      rw [hkept y hy, ← hx, idxOfNth_concat_self, hx]
      exact List.idxOfNth_lt_length_of_lt_count ((h.mem_iff y).mp hy)
  · next hx =>
    refine ⟨?_, hinOrder⟩
    intro y
    rw [h.mem_iff, hcount]
    split
    · next hy =>
      subst hy
      omega
    · rfl

end ByOccurrence

end WorkflowEngine
