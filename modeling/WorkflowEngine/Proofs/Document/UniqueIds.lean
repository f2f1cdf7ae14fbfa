import Mathlib.Data.List.Induction
import WorkflowEngine.Proofs.Occurrences
import WorkflowEngine.Workflow.Basic

/-!
# Unique ids

The comparison of ids finds the ids that occur more than once, in the order in which
they are met again.  It finds none exactly if no id occurs twice, and so the nodes of an
accepted document have ids of their own.
-/

namespace WorkflowEngine

namespace Workflow

/-- The search for repetitions keeps all ids it has met. -/
theorem foldl_noteId (ids : List String) :
    ids.foldl noteId ([], []) = (ids.reverse, repeatedIds ids) := by
  refine Prod.ext ?_ rfl
  induction ids using List.reverseRecOn with
  | nil => rfl
  | append_singleton ids id ih =>
    rw [List.foldl_concat, noteId, ih, List.reverse_concat]

theorem repeatedIds_concat (ids : List String) (id : String) :
    repeatedIds (ids ++ [id]) =
      if id ∈ ids ∧ id ∉ repeatedIds ids then repeatedIds ids ++ [id] else repeatedIds ids := by
  rw [repeatedIds, List.foldl_concat, foldl_noteId]
  simp [noteId]

/-- The search notes the ids that are met again, in the order in which that happens: an id is
noted when it is met for the second time. -/
theorem byOccurrence_repeatedIds (ids : List String) : ByOccurrence 1 ids (repeatedIds ids) := by
  induction ids using List.reverseRecOn with
  | nil => exact .nil
  | append_singleton ids id ih =>
    have hsecond : (id ∈ ids ∧ id ∉ repeatedIds ids) ↔ ids.count id = 1 := by
      rw [ih.mem_iff, ← List.count_pos_iff]
      omega
    rw [repeatedIds_concat, if_congr hsecond rfl rfl]
    exact ih.concat id

theorem repeatedIds_eq_nil_iff (ids : List String) : repeatedIds ids = [] ↔ ids.Nodup := by
  rw [(byOccurrence_repeatedIds ids).eq_nil_iff, List.nodup_iff_count_le_one]

theorem repetition?_eq_none_iff (document : Json) :
    repetition? document = none ↔
      (idsIn document "nodes").Nodup ∧ (idsIn document "edges").Nodup := by
  rw [← repeatedIds_eq_nil_iff, ← repeatedIds_eq_nil_iff]
  unfold repetition?
  by_cases hnodes : repeatedIds (idsIn document "nodes") = []
  · by_cases hedges : repeatedIds (idsIn document "edges") = []
    · simp [hnodes, hedges]
    · simp [hnodes, hedges]
  · simp [hnodes]

end Workflow

namespace Schema.Shape

/-- A value that a shape accepts is refused if the refinement has something against it. -/
theorem check_refine_of_fault {s : Shape} {fault? : Json → Option Fault} {j c : Json} {f : Fault}
    (hcheck : s.check j = .ok c) (hfault : fault? c = some f) :
    (s.refine fault?).check j = .error [Issue.here f] := by
  simp only [refine, hcheck, hfault]
  rfl

/-- A refined shape accepts what the shape accepts and the refinement has nothing
against. -/
theorem check_refine_eq_ok_iff (s : Shape) (fault? : Json → Option Fault) (j c : Json) :
    (s.refine fault?).check j = .ok c ↔ s.check j = .ok c ∧ fault? c = none := by
  simp only [refine]
  cases hcheck : s.check j with
  | error issues => simp
  | ok c' =>
    dsimp only
    cases hfault : fault? c' with
    | none =>
      simp only [Except.ok.injEq]
      constructor
      · rintro rfl
        exact ⟨rfl, hfault⟩
      · exact And.left
    | some f =>
      simp only [Checked.fault, reduceCtorEq, Except.ok.injEq, false_iff, not_and]
      rintro rfl
      simp [hfault]

end Schema.Shape

namespace Document

/-- The ids of the nodes of an accepted document differ from each other. -/
theorem nodup_nodeIds (d : Document) : (d.workflow.nodes.map (·.id)).Nodup := by
  obtain ⟨source, hsource⟩ := d.accepted
  have hunique := ((Schema.Shape.check_refine_eq_ok_iff _ _ _ _).mp hsource).2
  have hnodes := ((Workflow.repetition?_eq_none_iff _).mp hunique).1
  simpa [Document.workflow, Document.nodes, Workflow.idsIn, Node.ofContent,
    Function.comp_def] using hnodes

end Document

end WorkflowEngine
