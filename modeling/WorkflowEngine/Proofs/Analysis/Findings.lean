import WorkflowEngine.Analysis.Checks
import WorkflowEngine.Proofs.Graph.Acyclicity

/-!
# What the checks find

`Workflow.warranted` lists the findings a workflow deserves in terms of its nodes and
the walks along its edges alone: no graph is built and nothing is searched.  Each
check is shown to find its part of that list, and so all of them together find
exactly that list.  An end of an edge that is no node takes part in walks, but the
list only ever names nodes.
-/

namespace WorkflowEngine

namespace Workflow

/-! ## Walks along the edges of a workflow -/

/-- Some edge leads from one id to another, whether or not they are nodes. -/
def Joins (w : Workflow) (a b : NodeId) : Prop := ∃ e ∈ w.edges, e.source = a ∧ e.target = b

/-- A walk of zero or more edges. -/
abbrev Leads (w : Workflow) : NodeId → NodeId → Prop := Relation.ReflTransGen w.Joins

/-- Some id has a walk of one or more edges back to itself. -/
def Cyclic (w : Workflow) : Prop := ∃ id, Relation.TransGen w.Joins id id

/-- Some edge leaves an id. -/
def Leaves (w : Workflow) (id : NodeId) : Prop := ∃ e ∈ w.edges, e.source = id

/-- A node that lies between a start node and an end node. -/
def Connected (w : Workflow) (n : Node) : Prop :=
  (∃ s ∈ w.nodes, s.kind = .start ∧ w.Leads s.id n.id) ∧
    ∃ t ∈ w.nodes, t.kind = .finish ∧ w.Leads n.id t.id

/-- The ends of the edges in document order. -/
def pairs (w : Workflow) : List (NodeId × NodeId) := w.edges.map fun e => (e.source, e.target)

theorem joins_pairs (w : Workflow) : Graph.Joins w.pairs = w.Joins := by
  funext a b
  simp [Graph.Joins, Joins, pairs]

theorem stores_graph (w : Workflow) : w.graph.Stores w.pairs := Graph.stores_ofLists _ _

/-- The out-degree of an id tells whether an edge leaves it. -/
theorem outDegree_pos_iff (w : Workflow) (id : NodeId) :
    0 < w.graph.outDegree id ↔ w.Leaves id := by
  rw [Graph.outDegree, w.stores_graph.successors, List.length_pos_iff_exists_mem]
  constructor
  · rintro ⟨b, hb⟩
    have hedge := Graph.mem_targetsOf.mp hb
    simp only [pairs, List.mem_map, Prod.mk.injEq] at hedge
    obtain ⟨e, he, hsource, -⟩ := hedge
    exact ⟨e, he, hsource⟩
  · rintro ⟨e, he, rfl⟩
    exact ⟨e.target, Graph.mem_targetsOf.mpr (List.mem_map.mpr ⟨e, he, rfl⟩)⟩

/-! ## The findings a workflow deserves -/

/-- The start nodes in document order. -/
def starts (w : Workflow) : List Node := w.nodes.filter (·.kind = .start)

/-- The end nodes that some edge leaves, in document order. -/
noncomputable def leftEnds (w : Workflow) : List Node := by
  classical
  exact w.nodes.filter fun n => n.kind = .finish ∧ w.Leaves n.id

/-- The nodes that lie on no walk from a start node to an end node, in document
order. -/
noncomputable def stranded (w : Workflow) : List Node := by
  classical
  exact w.nodes.filter fun n => ¬ w.Connected n

/-- The nodes, end nodes apart, that no edge leaves, in document order. -/
noncomputable def deadEnds (w : Workflow) : List Node := by
  classical
  exact w.nodes.filter fun n => n.kind ≠ .finish ∧ ¬ w.Leaves n.id

/-- The findings a workflow deserves, in the order in which they are reported. -/
noncomputable def warranted (w : Workflow) : List Finding := by
  classical
  exact
    (if ∃ n ∈ w.nodes, n.kind = .start then []
      else
        [{ node := none, edge := none, code := .noStartNode, severity := .error,
           message := "Workflow must contain at least one Start Node" }]) ++
    (if 2 ≤ w.starts.length then
        w.starts.map fun n =>
          { node := some n.id, edge := none, code := .multipleStartNodes, severity := .warning,
            message := "Multiple Start Nodes detected. Only one Start Node is recommended" }
      else []) ++
    (if w.Cyclic then
        [{ node := none, edge := none, code := .cycleDetected, severity := .error,
           message := "Workflow contains cycles. Cyclic workflows are not supported" }]
      else []) ++
    (w.leftEnds.map fun n =>
      { node := some n.id, edge := none, code := .endNodeHasOutgoing, severity := .error,
        message := "End Node cannot have outgoing connections" }) ++
    (if (∃ n ∈ w.nodes, n.kind = .start) ∧ ∃ n ∈ w.nodes, ¬ w.Connected n then
        [{ node := none, edge := none, code := .disconnectedNodes, severity := .warning,
           message := "Disconnected nodes detected: " ++
            Text.intercalate ", " (w.stranded.map Node.displayName) }]
      else []) ++
    (w.deadEnds.map fun n =>
      { node := some n.id, edge := none, code := .incompletePath, severity := .warning,
        message :=
          "Node \"" ++ n.displayName ++ "\" has no outgoing connections and is not an End Node" })

theorem isEmpty_ofKind_iff (w : Workflow) (k : NodeKind) :
    (w.ofKind k).isEmpty = true ↔ ¬ ∃ n ∈ w.nodes, n.kind = k := by
  simp [ofKind, List.isEmpty_iff]

theorem mem_idsOfKind_iff (w : Workflow) (k : NodeKind) (id : NodeId) :
    id ∈ w.idsOfKind k ↔ ∃ n ∈ w.nodes, n.kind = k ∧ n.id = id := by
  simp [idsOfKind, ofKind, and_assoc]

/-- What is reached from the start nodes is what a walk from one of them leads to. -/
theorem contains_reachableFrom_starts_iff (w : Workflow) (id : NodeId) :
    (w.graph.reachableFrom (w.idsOfKind .start)).contains id = true ↔
      ∃ s ∈ w.nodes, s.kind = .start ∧ w.Leads s.id id := by
  rw [w.stores_graph.contains_reachableFrom, Graph.Leads, w.joins_pairs]
  constructor
  · rintro ⟨a, ha, hwalk⟩
    obtain ⟨s, hs, hkind, rfl⟩ := (w.mem_idsOfKind_iff .start a).mp ha
    exact ⟨s, hs, hkind, hwalk⟩
  · rintro ⟨s, hs, hkind, hwalk⟩
    exact ⟨s.id, (w.mem_idsOfKind_iff .start s.id).mpr ⟨s, hs, hkind, rfl⟩, hwalk⟩

/-- What reaches the end nodes is what a walk to one of them begins with. -/
theorem contains_reaching_ends_iff (w : Workflow) (id : NodeId) :
    (w.graph.reaching (w.idsOfKind .finish)).contains id = true ↔
      ∃ t ∈ w.nodes, t.kind = .finish ∧ w.Leads id t.id := by
  rw [w.stores_graph.contains_reaching, Graph.Leads, w.joins_pairs]
  constructor
  · rintro ⟨b, hb, hwalk⟩
    obtain ⟨t, ht, hkind, rfl⟩ := (w.mem_idsOfKind_iff .finish b).mp hb
    exact ⟨t, ht, hkind, hwalk⟩
  · rintro ⟨t, ht, hkind, hwalk⟩
    exact ⟨t.id, (w.mem_idsOfKind_iff .finish t.id).mpr ⟨t, ht, hkind, rfl⟩, hwalk⟩

end Workflow

namespace Checks

open Workflow

/-! ## One check after the other -/

theorem startNode_eq (w : Workflow) [Decidable (∃ n ∈ w.nodes, n.kind = .start)] :
    startNode w =
      if ∃ n ∈ w.nodes, n.kind = .start then []
      else
        [{ node := none, edge := none, code := .noStartNode, severity := .error,
           message := "Workflow must contain at least one Start Node" }] := by
  simp only [startNode, Finding.general]
  by_cases h : ∃ n ∈ w.nodes, n.kind = .start
  · have hsome : ¬ (w.ofKind .start).isEmpty = true := by
      rw [isEmpty_ofKind_iff, not_not]
      exact h
    rw [if_neg hsome, if_pos h]
  · rw [if_pos ((isEmpty_ofKind_iff w .start).mpr h), if_neg h]

theorem severalStartNodes_eq (w : Workflow) :
    severalStartNodes w =
      if 2 ≤ w.starts.length then
        w.starts.map fun n =>
          { node := some n.id, edge := none, code := .multipleStartNodes, severity := .warning,
            message := "Multiple Start Nodes detected. Only one Start Node is recommended" }
      else [] := by
  have hstarts : w.ofKind .start = w.starts := rfl
  simp only [severalStartNodes, Finding.about, hstarts]
  by_cases h : 2 ≤ w.starts.length
  · rw [if_neg (by omega), if_pos h]
  · rw [if_pos (by omega), if_neg h]

theorem cycles_eq (w : Workflow) [Decidable w.Cyclic] :
    cycles w.graph =
      if w.Cyclic then
        [{ node := none, edge := none, code := .cycleDetected, severity := .error,
           message := "Workflow contains cycles. Cyclic workflows are not supported" }]
      else [] := by
  have hnone : w.graph.detectCycle = none ↔ ¬ w.Cyclic := by
    rw [w.stores_graph.detectCycle_eq_none_iff, Graph.LeadsOn, w.joins_pairs, Cyclic]
  simp only [cycles, Finding.general]
  cases hcycle : w.graph.detectCycle with
  | none => rw [if_neg (hnone.mp hcycle)]
  | some cycle =>
    have hcyclic : w.Cyclic := by
      by_contra h
      rw [hnone.mpr h] at hcycle
      contradiction
    rw [if_pos hcyclic]

theorem endNodes_eq (w : Workflow) :
    endNodes w w.graph =
      w.leftEnds.map fun n =>
        { node := some n.id, edge := none, code := .endNodeHasOutgoing, severity := .error,
          message := "End Node cannot have outgoing connections" } := by
  have hnodes : (w.ofKind .finish).filter (fun n => 0 < w.graph.outDegree n.id) =
      w.leftEnds := by
    simp only [ofKind, leftEnds, List.filter_filter]
    apply List.filter_congr
    intro n _
    simp only [← outDegree_pos_iff]
    by_cases hkind : n.kind = .finish
    · simp [hkind]
    · simp [hkind]
  simp only [endNodes, Finding.about, hnodes]

theorem disconnectedNodes_eq (w : Workflow) : disconnectedNodes w w.graph = w.stranded := by
  simp only [disconnectedNodes, stranded]
  apply List.filter_congr
  intro n _
  rw [Bool.eq_iff_iff]
  simp only [decide_eq_true_eq]
  simp only [Bool.or_eq_true, Bool.not_eq_true', ← Bool.not_eq_true,
    contains_reachableFrom_starts_iff, contains_reaching_ends_iff, Connected, not_and_or]

theorem disconnected_eq (w : Workflow)
    [Decidable ((∃ n ∈ w.nodes, n.kind = .start) ∧ ∃ n ∈ w.nodes, ¬ w.Connected n)] :
    disconnected w w.graph =
      if (∃ n ∈ w.nodes, n.kind = .start) ∧ ∃ n ∈ w.nodes, ¬ w.Connected n then
        [{ node := none, edge := none, code := .disconnectedNodes, severity := .warning,
           message := "Disconnected nodes detected: " ++
            Text.intercalate ", " (w.stranded.map Node.displayName) }]
      else [] := by
  have hempty : (w.stranded.map Node.displayName).isEmpty = true ↔
      ¬ ∃ n ∈ w.nodes, ¬ w.Connected n := by
    simp [stranded, List.isEmpty_iff]
  simp only [disconnected, Finding.general, disconnectedNodes_eq]
  by_cases h : (∃ n ∈ w.nodes, n.kind = .start) ∧ ∃ n ∈ w.nodes, ¬ w.Connected n
  · rw [if_pos h, if_neg]
    rw [isEmpty_ofKind_iff, hempty, not_or, not_not, not_not]
    exact h
  · rw [if_neg h, if_pos]
    rw [isEmpty_ofKind_iff, hempty, ← not_and_or]
    exact h

theorem incompletePaths_eq (w : Workflow) :
    incompletePaths w w.graph =
      w.deadEnds.map fun n =>
        { node := some n.id, edge := none, code := .incompletePath, severity := .warning,
          message :=
            "Node \"" ++ n.displayName ++
              "\" has no outgoing connections and is not an End Node" } := by
  have hnodes : (w.nodes.filter fun n => n.kind ≠ .finish ∧ w.graph.outDegree n.id = 0) =
      w.deadEnds := by
    simp only [deadEnds]
    apply List.filter_congr
    intro n _
    rw [decide_eq_decide, ← outDegree_pos_iff, Nat.pos_iff_ne_zero, not_not]
  simp only [incompletePaths, Finding.about, hnodes]

end Checks

namespace Workflow

/-- The checks together find what a workflow deserves. -/
theorem findings_eq_warranted (w : Workflow) : w.findings = w.warranted := by
  classical
  simp only [findings, Checks.startNode_eq, Checks.severalStartNodes_eq, Checks.cycles_eq,
    Checks.endNodes_eq, Checks.disconnected_eq, Checks.incompletePaths_eq, warranted]

/-- A deserved finding names a node of the workflow, or nothing. -/
theorem named_of_mem_warranted {w : Workflow} {f : Finding} (hf : f ∈ w.warranted) :
    f.edge = none ∧ (f.node = none ∨ ∃ n ∈ w.nodes, f.node = some n.id) := by
  simp only [warranted, List.mem_append, List.mem_ite_nil_left, List.mem_ite_nil_right,
    List.mem_singleton, List.mem_map] at hf
  rcases hf with
    ((((⟨-, rfl⟩ | ⟨-, n, hn, rfl⟩) | ⟨-, rfl⟩) | ⟨n, hn, rfl⟩) | ⟨-, rfl⟩) | ⟨n, hn, rfl⟩
  · exact ⟨rfl, Or.inl rfl⟩
  · exact ⟨rfl, Or.inr ⟨n, List.mem_of_mem_filter hn, rfl⟩⟩
  · exact ⟨rfl, Or.inl rfl⟩
  · exact ⟨rfl, Or.inr ⟨n, List.mem_of_mem_filter hn, rfl⟩⟩
  · exact ⟨rfl, Or.inl rfl⟩
  · exact ⟨rfl, Or.inr ⟨n, List.mem_of_mem_filter hn, rfl⟩⟩

/-- Checking a workflow reports exactly the findings that its nodes and the walks along
its edges warrant, in their order, and none of them names an id that is no node. -/
theorem validate_result_eq_warranted (w : Workflow) :
    w.validate.result = w.warranted ∧
      ∀ f ∈ w.validate.result,
        f.edge = none ∧ (f.node = none ∨ ∃ n ∈ w.nodes, f.node = some n.id) := by
  have hresult : w.validate.result = w.warranted := w.findings_eq_warranted
  refine ⟨hresult, ?_⟩
  intro f hf
  rw [hresult] at hf
  exact named_of_mem_warranted hf

end Workflow

end WorkflowEngine
