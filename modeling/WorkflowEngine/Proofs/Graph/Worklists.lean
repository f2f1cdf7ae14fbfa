import Mathlib.Algebra.Order.BigOperators.Group.List
import Mathlib.Algebra.Order.Group.Nat
import Mathlib.Algebra.Ring.Nat
import Mathlib.Data.List.Perm.Subperm
import Mathlib.Logic.Function.Iterate
import WorkflowEngine.Proofs.Graph.Storage

/-!
# Worklists

A traversal expands an id when it marks the id as seen and looks up its neighbours.  It marks
each id that it expands, keeps all marks and expands no marked id, so it expands no id twice.
A list of pending ids may hold an id many times, but a step takes one item off it and adds at
most the neighbours of the id that it expands.  So the number of steps is paid for by the items
at the start and by the neighbours of the expanded ids, on every graph.
-/

namespace WorkflowEngine.Graph

/-! ## Neighbours of several ids -/

/-- How many neighbours some ids have together. -/
def neighbourCount (neighbours : NodeId → List NodeId) (ids : List NodeId) : Nat :=
  (ids.map fun id => (neighbours id).length).sum

theorem neighbourCount_append (neighbours : NodeId → List NodeId) (ids others : List NodeId) :
    neighbourCount neighbours (ids ++ others) =
      neighbourCount neighbours ids + neighbourCount neighbours others := by
  rw [neighbourCount, List.map_append, List.sum_append]
  rfl

theorem neighbourCount_singleton (neighbours : NodeId → List NodeId) (id : NodeId) :
    neighbourCount neighbours [id] = (neighbours id).length := by
  rw [neighbourCount, List.map_singleton, List.sum_singleton]

/-- Distinct ids have no more neighbours than a list that holds them all. -/
theorem neighbourCount_le (neighbours : NodeId → List NodeId) {ids others : List NodeId}
    (hids : ids.Nodup) (hsub : ids ⊆ others) :
    neighbourCount neighbours ids ≤ neighbourCount neighbours others := by
  obtain ⟨same, hperm, hsublist⟩ := hids.subperm hsub
  calc neighbourCount neighbours ids
      = neighbourCount neighbours same := (hperm.symm.map _).sum_eq
    _ ≤ neighbourCount neighbours others := (hsublist.map _).sum_le_sum fun _ _ => Nat.zero_le _

/-- Distinct ids that have not been seen have no more targets than there are open edges. -/
theorem neighbourCount_le_openEdges (edges : List (NodeId × NodeId)) {seen : IdSet}
    {ids : List NodeId} (hids : ids.Nodup) (hnew : ∀ id ∈ ids, seen.contains id = false) :
    neighbourCount (targetsOf edges) ids ≤ openEdges edges seen := by
  induction ids generalizing seen with
  | nil => exact Nat.zero_le _
  | cons id ids ih =>
    obtain ⟨hid, hids⟩ := List.nodup_cons.mp hids
    obtain ⟨hfirst, hnew⟩ := List.forall_mem_cons.mp hnew
    have hrest : ∀ other ∈ ids, (seen.insert id).contains other = false := by
      intro other hother
      rw [IdSet.contains_insert, hnew other hother, Bool.or_false, decide_eq_false_iff_not]
      exact fun heq => hid (heq ▸ hother)
    have hopen := openEdges_eq_add_insert edges hfirst
    have hle := ih hids hrest
    rw [← List.singleton_append, neighbourCount_append, neighbourCount_singleton]
    omega

/-! ## Steps that expand ids -/

/-- The first of some pending ids, if it has not been seen. -/
def fresh? (seen : IdSet) : List NodeId → Option NodeId
  | [] => none
  | id :: _ => if seen.contains id then none else some id

theorem fresh?_eq_some_iff {seen : IdSet} {pending : List NodeId} {id : NodeId} :
    fresh? seen pending = some id ↔
      ∃ rest, pending = id :: rest ∧ seen.contains id = false := by
  cases pending with
  | nil => simp [fresh?]
  | cons first rest =>
    rw [fresh?]
    split
    · next hseen =>
      simp only [List.cons.injEq, reduceCtorEq, false_iff, not_exists, not_and]
      rintro _ ⟨rfl, -⟩
      simp [hseen]
    · next hseen =>
      simp only [List.cons.injEq, Option.some.injEq]
      constructor
      · rintro rfl
        exact ⟨rest, ⟨rfl, rfl⟩, Bool.eq_false_iff.mpr hseen⟩
      · rintro ⟨_, ⟨rfl, -⟩, -⟩
        rfl

section Steps

variable {σ : Type} {step : σ → σ} {expands? : σ → Option NodeId}

/-- The ids that some steps expand, in order. -/
def expansions (step : σ → σ) (expands? : σ → Option NodeId) : Nat → σ → List NodeId
  | 0, _ => []
  | n + 1, s => (expands? s).toList ++ expansions step expands? n (step s)

/-- Steps mark the ids that they expand and keep all marks, and no marked id is expanded. -/
structure Marks (step : σ → σ) (expands? : σ → Option NodeId) (marked : σ → NodeId → Prop) :
    Prop where
  fresh : ∀ s id, expands? s = some id → ¬ marked s id
  kept : ∀ s id, marked s id → marked (step s) id
  set : ∀ s id, expands? s = some id → marked (step s) id

theorem Marks.kept_iterate {marked : σ → NodeId → Prop} (h : Marks step expands? marked) (n : Nat)
    {s : σ} {id : NodeId} (hid : marked s id) : marked (step^[n] s) id :=
  Function.Iterate.rec (fun t => marked t id) hid (fun t ht => h.kept t id ht) n

theorem Marks.not_marked {marked : σ → NodeId → Prop} (h : Marks step expands? marked) {n : Nat}
    {s : σ} {id : NodeId} (hid : id ∈ expansions step expands? n s) : ¬ marked s id := by
  induction n generalizing s with
  | zero => simp [expansions] at hid
  | succ n ih =>
    rcases List.mem_append.mp hid with hfirst | hrest
    · exact h.fresh s id (Option.mem_toList.mp hfirst)
    · exact fun hmarked => ih hrest (h.kept s id hmarked)

/-- No id is expanded twice. -/
theorem Marks.nodup_expansions {marked : σ → NodeId → Prop} (h : Marks step expands? marked)
    (n : Nat) (s : σ) : (expansions step expands? n s).Nodup := by
  induction n generalizing s with
  | zero => exact List.nodup_nil
  | succ n ih =>
    cases hfirst : expands? s with
    | none => simpa [expansions, hfirst] using ih (step s)
    | some id =>
      have hlater : id ∉ expansions step expands? n (step s) :=
        fun hid => h.not_marked hid (h.set s id hfirst)
      simpa [expansions, hfirst] using ⟨hlater, ih (step s)⟩

theorem Marks.marked_of_mem {marked : σ → NodeId → Prop} (h : Marks step expands? marked)
    {n : Nat} {s : σ} {id : NodeId} (hid : id ∈ expansions step expands? n s) :
    marked (step^[n] s) id := by
  induction n generalizing s with
  | zero => simp [expansions] at hid
  | succ n ih =>
    rw [Function.iterate_succ_apply]
    rcases List.mem_append.mp hid with hfirst | hrest
    · exact h.kept_iterate n (h.set s id (Option.mem_toList.mp hfirst))
    · exact ih hrest

/-- If steps mark nothing but what they expand, all marks are old or due to an expansion. -/
theorem marked_or_mem_expansions (marked : σ → NodeId → Prop)
    (honly : ∀ s id, marked (step s) id → marked s id ∨ expands? s = some id) {n : Nat} {s : σ}
    {id : NodeId} (hid : marked (step^[n] s) id) :
    marked s id ∨ id ∈ expansions step expands? n s := by
  induction n generalizing s with
  | zero => exact Or.inl hid
  | succ n ih =>
    rw [Function.iterate_succ_apply] at hid
    rw [expansions, List.mem_append, Option.mem_toList]
    rcases ih hid with hmarked | hlater
    · exact (honly s id hmarked).imp_right Or.inl
    · exact Or.inr (Or.inr hlater)

/-! ## Worklists -/

/-- Steps that take the first of some pending ids and, if it has not been seen, mark it as seen and
add at most its neighbours to what is pending. -/
structure Worklist (step : σ → σ) (seen : σ → IdSet) (pending : σ → List NodeId)
    (neighbours : NodeId → List NodeId) : Prop where
  idle : ∀ s, pending s = [] → step s = s
  skips : ∀ s node rest, pending s = node :: rest → (seen s).contains node = true →
    seen (step s) = seen s ∧ pending (step s) = rest
  enters : ∀ s node rest, pending s = node :: rest → (seen s).contains node = false →
    seen (step s) = (seen s).insert node ∧
      (pending (step s)).length ≤ rest.length + (neighbours node).length

namespace Worklist

variable {neighbours : NodeId → List NodeId} {seen : σ → IdSet} {pending : σ → List NodeId}

/-- A step marks what it expands and nothing else. -/
theorem contains_step (h : Worklist step seen pending neighbours) (s : σ) (id : NodeId) :
    (seen (step s)).contains id = true ↔
      (seen s).contains id = true ∨ fresh? (seen s) (pending s) = some id := by
  rw [fresh?_eq_some_iff]
  cases hpending : pending s with
  | nil => simp [h.idle s hpending]
  | cons node rest =>
    cases hnode : (seen s).contains node with
    | true =>
      rw [(h.skips s node rest hpending hnode).1]
      constructor
      · exact Or.inl
      · rintro (hold | ⟨_, heq, hnew⟩)
        · exact hold
        · rw [← (List.cons.inj heq).1, hnode] at hnew
          cases hnew
    | false =>
      rw [(h.enters s node rest hpending hnode).1, IdSet.contains_insert, Bool.or_eq_true,
        decide_eq_true_eq]
      constructor
      · rintro (rfl | hold)
        · exact Or.inr ⟨rest, rfl, hnode⟩
        · exact Or.inl hold
      · rintro (hold | ⟨_, heq, -⟩)
        · exact Or.inr hold
        · exact Or.inl (List.cons.inj heq).1

theorem marks (h : Worklist step seen pending neighbours) :
    Marks step (fun s => fresh? (seen s) (pending s))
      fun s id => (seen s).contains id = true where
  fresh s id hid := by
    obtain ⟨_, -, hnew⟩ := fresh?_eq_some_iff.mp hid
    simp [hnew]
  kept s id hid := (h.contains_step s id).mpr (Or.inl hid)
  set s id hid := (h.contains_step s id).mpr (Or.inr hid)

/-- A step takes one item off what is pending, and adds at most the neighbours of the id that it
expands. -/
theorem length_step (h : Worklist step seen pending neighbours) {s : σ} (hs : pending s ≠ []) :
    (pending (step s)).length + 1 ≤
      (pending s).length + neighbourCount neighbours (fresh? (seen s) (pending s)).toList := by
  obtain ⟨node, rest, hpending⟩ := List.exists_cons_of_ne_nil hs
  rw [hpending, List.length_cons]
  cases hnode : (seen s).contains node with
  | true =>
    rw [(h.skips s node rest hpending hnode).2]
    exact Nat.le_add_right _ _
  | false =>
    have hadded := (h.enters s node rest hpending hnode).2
    have hfresh : fresh? (seen s) (node :: rest) = some node :=
      fresh?_eq_some_iff.mpr ⟨rest, rfl, hnode⟩
    rw [hfresh, Option.toList_some, neighbourCount_singleton]
    omega

/-- As long as something is pending, all steps so far have been paid for. -/
theorem paid_iterate (h : Worklist step seen pending neighbours) (n : Nat) (s : σ) :
    pending (step^[n] s) = [] ∨ n + (pending (step^[n] s)).length ≤ (pending s).length +
      neighbourCount neighbours
        (expansions step (fun s => fresh? (seen s) (pending s)) n s) := by
  induction n generalizing s with
  | zero => exact Or.inr (by simp)
  | succ n ih =>
    rw [Function.iterate_succ_apply, expansions, neighbourCount_append]
    rcases ih (step s) with hdone | hpaid
    · exact Or.inl hdone
    · by_cases hs : pending s = []
      · have hsame := h.idle s hs
        rw [hsame, Function.iterate_fixed hsame]
        exact Or.inl hs
      · have hstep := h.length_step hs
        right
        omega

/-- Nothing is pending any more after one step for each item at the start and one for each
neighbour of an id that is expanded. -/
theorem pending_iterate_eq_nil (h : Worklist step seen pending neighbours) {s : σ} {n : Nat}
    (hn : (pending s).length + neighbourCount neighbours
      (expansions step (fun s => fresh? (seen s) (pending s)) n s) ≤ n) :
    pending (step^[n] s) = [] := by
  rcases h.paid_iterate n s with hdone | hpaid
  · exact hdone
  · apply List.eq_nil_of_length_eq_zero
    omega

/-- The same for ids that hold all that have been seen in the end, as what is expanded is among
them. -/
theorem pending_iterate_eq_nil_of_seen (h : Worklist step seen pending neighbours) {s : σ}
    {ids : List NodeId} {n : Nat} (hids : ∀ id, (seen (step^[n] s)).contains id = true → id ∈ ids)
    (hn : (pending s).length + neighbourCount neighbours ids ≤ n) : pending (step^[n] s) = [] := by
  have hle := neighbourCount_le neighbours (h.marks.nodup_expansions n s)
    fun id hid => hids id (h.marks.marked_of_mem hid)
  exact h.pending_iterate_eq_nil (by omega)

/-- The same along edges: what is expanded had not been seen, so the edges that leave it were
open. -/
theorem pending_iterate_eq_nil_of_openEdges {edges : List (NodeId × NodeId)}
    (h : Worklist step seen pending (targetsOf edges)) {s : σ} {n : Nat}
    (hn : (pending s).length + openEdges edges (seen s) ≤ n) : pending (step^[n] s) = [] := by
  have hle := neighbourCount_le_openEdges edges (h.marks.nodup_expansions n s)
    fun id hid => Bool.eq_false_iff.mpr (h.marks.not_marked hid)
  exact h.pending_iterate_eq_nil (by omega)

end Worklist

end Steps

end WorkflowEngine.Graph
