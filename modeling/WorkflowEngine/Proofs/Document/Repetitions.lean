import WorkflowEngine.Proofs.Document.Grammar

/-!
# Reports on repeated ids

The ids of a document are compared once all its nodes and edges are in order.  Then at most one
issue is found, about the document as a whole, and it names the repeated ids and no others, in
the order in which they are met again.  Ids of edges are reported only if no id of a node is
repeated.
-/

namespace WorkflowEngine

namespace Grammar

/-- A document but for its ids: its nodes and its edges are in order, each on its own. -/
def HasParts (j : Json) (nodes edges : List Json) : Prop :=
  ∃ o : Members, j = .obj o ∧ HasStringNames o ∧
    o.get? "nodes" = some (.arr nodes) ∧ o.get? "edges" = some (.arr edges) ∧
      (∀ n ∈ nodes, IsNode n) ∧ ∀ e ∈ edges, IsEdge e

end Grammar

namespace Schema

/-- An issue is about a value as a whole and names the ids that are repeated among some ids, each
once, in the order in which they occur for the second time. -/
def Issue.NamesRepeated (issue : Issue) (sort : ElementSort) (ids : List String) : Prop :=
  ∃ repeated, ByOccurrence 1 ids repeated ∧ issue = Issue.here (.repeatedIds sort repeated) ∧
    issue.fault.message =
      "Value error, Duplicate " ++ sort.name ++ " ids: " ++ ", ".intercalate repeated

end Schema

namespace Workflow

open Schema Grammar

theorem namesRepeated_here (sort : ElementSort) (ids : List String) :
    (Issue.here (.repeatedIds sort (repeatedIds ids))).NamesRepeated sort ids :=
  ⟨_, byOccurrence_repeatedIds ids, rfl, rfl⟩

/-- The parts of a document are accepted, with their ids as they are. -/
theorem exists_check_of_hasParts {j : Json} {nodes edges : List Json} (h : HasParts j nodes edges) :
    ∃ c, graphModel.shape.check j = .ok c ∧
      idsIn c "nodes" = nodes.map idOf ∧ idsIn c "edges" = edges.map idOf := by
  obtain ⟨o, rfl, hnames, hnodes, hedges, hnode, hedge⟩ := h
  obtain ⟨c, hc⟩ :=
    accepts_graph_iff.mpr ⟨o, nodes, edges, rfl, hnames, hnodes, hedges, hnode, hedge⟩
  refine ⟨c, hc, ?_, ?_⟩
  · rw [(nodes_of_check hc).1, Json.field, hnodes]
    rfl
  · rw [(edges_of_check hc).1, Json.field, hedges]
    rfl

section Comparison

variable {c : Json}

theorem repetition?_of_nodes (h : ¬ (idsIn c "nodes").Nodup) :
    repetition? c = some (.repeatedIds .node (repeatedIds (idsIn c "nodes"))) := by
  rw [← repeatedIds_eq_nil_iff] at h
  rw [repetition?, if_pos h]

theorem repetition?_of_edges (hnodes : (idsIn c "nodes").Nodup)
    (hedges : ¬ (idsIn c "edges").Nodup) :
    repetition? c = some (.repeatedIds .edge (repeatedIds (idsIn c "edges"))) := by
  rw [← repeatedIds_eq_nil_iff] at hnodes hedges
  rw [repetition?, if_neg (not_not.mpr hnodes), if_pos hedges]

end Comparison

end Workflow

namespace Document

open Schema Workflow Grammar

/-- The search for repetitions finds exactly the ids that occur at least twice, each once, in the
order of their second occurrences.  A document whose nodes and edges are in order is accepted if
no two nodes and no two edges have the same id.  If not it is refused for one issue, which names
the repeated ids of the nodes, or those of the edges if the nodes have none. -/
theorem repeated_ids_reported :
    (∀ ids repeated, ByOccurrence 1 ids repeated ↔ repeatedIds ids = repeated) ∧
      (∀ ids, (repeatedIds ids).Nodup ∧ (repeatedIds ids = [] ↔ ids.Nodup)) ∧
      ∀ j nodes edges, HasParts j nodes edges →
        ((∃ d, Document.ofJson j = .ok d) ↔
          (nodes.map idOf).Nodup ∧ (edges.map idOf).Nodup) ∧
        (¬ (nodes.map idOf).Nodup →
          ∃ issue : Issue, Document.ofJson j = .error [issue] ∧
            issue.NamesRepeated .node (nodes.map idOf)) ∧
        ((nodes.map idOf).Nodup → ¬ (edges.map idOf).Nodup →
          ∃ issue : Issue, Document.ofJson j = .error [issue] ∧
            issue.NamesRepeated .edge (edges.map idOf)) := by
  refine ⟨?_, ?_, ?_⟩
  · intro ids repeated
    have hfound := byOccurrence_repeatedIds ids
    exact ⟨hfound.unique, fun h => h ▸ hfound⟩
  · intro ids
    exact ⟨(byOccurrence_repeatedIds ids).nodup, repeatedIds_eq_nil_iff ids⟩
  · intro j nodes edges hparts
    obtain ⟨c, hc, hnodes, hedges⟩ := exists_check_of_hasParts hparts
    rw [← hnodes, ← hedges]
    refine ⟨?_, ?_, ?_⟩
    · rw [← repetition?_eq_none_iff]
      constructor
      · rintro ⟨d, hd⟩
        obtain ⟨hcheck, hunique⟩ :=
          (Shape.check_refine_eq_ok_iff _ _ _ _).mp (ofJson_eq_ok_iff.mp hd)
        rwa [Except.ok.inj (hc.symm.trans hcheck)]
      · intro hunique
        have hcheck := (Shape.check_refine_eq_ok_iff _ _ _ _).mpr ⟨hc, hunique⟩
        exact ⟨⟨c, j, hcheck⟩, ofJson_eq_ok_iff.mpr hcheck⟩
    · intro hrepeated
      have hcheck := Shape.check_refine_of_fault hc (repetition?_of_nodes hrepeated)
      exact ⟨_, ofJson_eq_error_iff.mpr hcheck, namesRepeated_here .node _⟩
    · intro hunique hrepeated
      have hcheck := Shape.check_refine_of_fault hc (repetition?_of_edges hunique hrepeated)
      exact ⟨_, ofJson_eq_error_iff.mpr hcheck, namesRepeated_here .edge _⟩

theorem isNode_bareNode_start {id : String} (hid : id ≠ "") : IsNode (bareNode id .start) := by
  have hnames : HasStringNames (bareNode id .start).members := by
    simp [HasStringNames, bareNode, Json.members]
  have hdata : IsData (.obj [("type", .str "start")]) := by
    refine ⟨_, .start, rfl, by simp [HasStringNames], rfl, ?_, ?_, ?_, ?_⟩ <;>
      exact fun _ h => absurd h (Option.not_mem_none _)
  have hposition : IsPosition (.obj []) := by
    refine ⟨[], rfl, List.forall_mem_nil _, ?_, ?_⟩ <;>
      exact fun _ h => absurd h (Option.not_mem_none _)
  exact ⟨_, rfl, hnames, ⟨_, rfl, id, hid, rfl⟩, ⟨_, rfl, "start", by decide, rfl⟩,
    ⟨_, rfl, hposition⟩, ⟨_, rfl, hdata⟩⟩

/-- Five nodes, of which the first and the fourth share an id, and so do the others. -/
def twins : Json :=
  bareDocument (["b", "a", "a", "b", "a"].map (bareNode · .start)) []

theorem repeated_ids_reported_twins :
    HasParts twins (["b", "a", "a", "b", "a"].map (bareNode · .start)) [] ∧
      ∃ issue : Issue, Document.ofJson twins = .error [issue] ∧
        issue.fault.message = "Value error, Duplicate node ids: a, b" := by
  have hparts : HasParts twins (["b", "a", "a", "b", "a"].map (bareNode · .start)) [] := by
    refine ⟨_, rfl, by simp [HasStringNames], rfl, rfl, ?_, List.forall_mem_nil _⟩
    intro n hn
    obtain ⟨id, hid, rfl⟩ := List.mem_map.mp hn
    refine isNode_bareNode_start ?_
    rintro rfl
    revert hid
    decide
  obtain ⟨issue, hissue, repeated, hrepeated, -, hmessage⟩ :=
    (repeated_ids_reported.2.2 _ _ _ hparts).2.1 (by decide)
  have hids := (repeated_ids_reported.1 _ _).mp hrepeated
  refine ⟨hparts, issue, hissue, ?_⟩
  rw [hmessage, ← hids]
  decide

end Document

end WorkflowEngine
