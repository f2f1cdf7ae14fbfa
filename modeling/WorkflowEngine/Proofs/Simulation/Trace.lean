import WorkflowEngine.Proofs.Analysis.Findings
import WorkflowEngine.Proofs.Document.UniqueIds
import WorkflowEngine.Proofs.Graph.RecursiveWalk
import WorkflowEngine.Simulation

/-!
# What a simulation replays

The trace of a workflow is the recursive walk from its first start node along all of
its edges, which skips ids that are no nodes.  The simulation builds a graph without
those edges and walks it with a list of pending ids; both visit the same nodes in the
same order.
-/

namespace WorkflowEngine

namespace Workflow

/-! ## The trace -/

/-- The targets of the edges that leave an id, in document order. -/
def targets (w : Workflow) (id : NodeId) : List NodeId :=
  (w.edges.filter (·.source = id)).map (·.target)

/-- The ids of the nodes in document order. -/
def nodeIds (w : Workflow) : List NodeId := w.nodes.map (·.id)

/-- The ids visited by a simulation: those of the recursive walk from the first start
node, and none if there is no start node. -/
def trace (w : Workflow) : List NodeId :=
  match w.starts.head? with
  | some start => Graph.recursiveWalk w.targets w.nodeIds start.id
  | none => []

/-- A step replays the node with an id: it shows the node's id, kind and label, is
completed, and tells the kind and the label, or the id if the label is empty. -/
structure Replays (w : Workflow) (id : NodeId) (s : SimulationStep) : Prop where
  visits : ∃ n ∈ w.nodes, n.id = id ∧ s.node = n.id ∧ s.kind = n.kind ∧ s.label = n.label ∧
    s.details = "Executed " ++ n.kind.name ++ " node: " ++
      (if n.label = "" then (n.id : Text) else n.label)
  completed : s.status = .completed

theorem replays_visit {w : Workflow} {n : Node} (hn : n ∈ w.nodes) :
    w.Replays n.id (SimulationStep.visit n) :=
  ⟨⟨n, hn, rfl, rfl, rfl, rfl, rfl⟩, rfl⟩

/-! ## Nodes by their ids -/

theorem contains_foldl_insert (nodes : List Node) (found : Std.TreeMap NodeId Node)
    (id : NodeId) :
    (nodes.foldl (fun found n => found.insert n.id n) found).contains id = true ↔
      found.contains id = true ∨ ∃ n ∈ nodes, n.id = id := by
  induction nodes generalizing found with
  | nil => simp
  | cons n nodes ih =>
    rw [List.foldl_cons, ih, Std.TreeMap.contains_insert]
    simp only [Bool.or_eq_true, beq_iff_eq, Std.LawfulEqCmp.compare_eq_iff_eq, List.mem_cons,
      exists_eq_or_imp]
    tauto

theorem contains_nodesById (w : Workflow) (id : NodeId) :
    w.nodesById.contains id = true ↔ id ∈ w.nodeIds := by
  rw [nodesById, contains_foldl_insert]
  simp [nodeIds]

theorem getElem?_foldl_insert {nodes : List Node} (hnodup : (nodes.map (·.id)).Nodup)
    (found : Std.TreeMap NodeId Node) {n : Node} (hn : n ∈ nodes) :
    (nodes.foldl (fun found n => found.insert n.id n) found)[n.id]? = some n := by
  induction nodes using List.reverseRecOn with
  | nil => simp at hn
  | append_singleton nodes last ih =>
    rw [List.map_append, List.nodup_append] at hnodup
    obtain ⟨hinit, -, hfresh⟩ := hnodup
    rw [List.foldl_append, List.foldl_cons, List.foldl_nil, Std.TreeMap.getElem?_insert]
    rcases List.mem_append.mp hn with hinner | hlast
    · have hne : last.id ≠ n.id := fun h =>
        hfresh n.id (List.mem_map.mpr ⟨n, hinner, rfl⟩) last.id (by simp) h.symm
      rw [if_neg (by simpa using hne)]
      exact ih hinit hinner
    · rw [List.mem_singleton.mp hlast]
      simp

/-- Where ids are unique, a node is found by its id. -/
theorem get?_nodesById {w : Workflow} (hunique : w.nodeIds.Nodup) {n : Node}
    (hn : n ∈ w.nodes) : w.nodesById.get? n.id = some n :=
  getElem?_foldl_insert hunique ∅ hn

/-! ## The graph without phantom ends -/

/-- The edges whose ends are nodes, as pairs in document order. -/
def innerPairs (w : Workflow) : List (NodeId × NodeId) :=
  (w.edges.filter fun e => e.source ∈ w.nodeIds ∧ e.target ∈ w.nodeIds).map fun e =>
    (e.source, e.target)

theorem stores_innerGraph (w : Workflow) : w.innerGraph.Stores w.innerPairs := by
  have hedges : (w.edges.filter fun e =>
      w.nodesById.contains e.source && w.nodesById.contains e.target) =
        w.edges.filter fun e => e.source ∈ w.nodeIds ∧ e.target ∈ w.nodeIds := by
    apply List.filter_congr
    intro e _
    rw [Bool.eq_iff_iff]
    simp only [Bool.and_eq_true, contains_nodesById, decide_eq_true_eq]
  have hstores := Graph.stores_ofLists (w.nodes.map (·.id)) w.innerPairs
  rw [innerPairs, ← hedges] at hstores
  rw [innerPairs, ← hedges]
  exact hstores

/-- Among nodes, what comes next in the inner graph is what comes next along all
edges. -/
theorem filter_targetsOf_innerPairs (w : Workflow) {id : NodeId} (hid : id ∈ w.nodeIds) :
    (Graph.targetsOf w.innerPairs id).filter (· ∈ w.nodeIds) =
      (w.targets id).filter (· ∈ w.nodeIds) := by
  simp only [Graph.targetsOf, innerPairs, targets, List.filter_map, List.map_map,
    List.filter_filter, Function.comp_def]
  congr 1
  apply List.filter_congr
  intro e _
  rw [Bool.eq_iff_iff]
  simp only [Bool.and_eq_true, decide_eq_true_eq]
  constructor
  · rintro ⟨htarget, hsource, -, -⟩
    exact ⟨htarget, hsource⟩
  · rintro ⟨htarget, rfl⟩
    exact ⟨htarget, rfl, hid, htarget⟩

/-- The preorder of the inner graph from a node is the recursive walk. -/
theorem preorder_innerGraph (w : Workflow) {root : NodeId} (hroot : root ∈ w.nodeIds) :
    w.innerGraph.preorder root = Graph.recursiveWalk w.targets w.nodeIds root := by
  have hscope : ∀ e ∈ w.innerPairs, e.2 ∈ w.nodeIds := by
    intro e he
    simp only [innerPairs, List.mem_map, List.mem_filter, decide_eq_true_eq] at he
    obtain ⟨edge, ⟨-, -, htarget⟩, rfl⟩ := he
    exact htarget
  rw [w.stores_innerGraph.preorder_eq_recursiveWalk hroot hscope, Graph.recursiveWalk,
    Graph.recursiveWalk]
  apply Graph.emit_congr_next
  intro id hid
  rw [w.stores_innerGraph.successors]
  exact w.filter_targetsOf_innerPairs hid

/-! ## The walk -/

theorem find?_start_eq (w : Workflow) : w.nodes.find? (·.kind = .start) = w.starts.head? := by
  simp [starts, List.head?_filter]

/-- Looking up nodes by ids of the workflow loses none of them. -/
theorem map_filterMap_get? {w : Workflow} (hunique : w.nodeIds.Nodup) {ids : List NodeId}
    (hids : ∀ id ∈ ids, id ∈ w.nodeIds) :
    List.Forall₂ w.Replays ids
      ((ids.filterMap fun id => w.nodesById.get? id).map SimulationStep.visit) := by
  induction ids with
  | nil => exact List.Forall₂.nil
  | cons id ids ih =>
    obtain ⟨n, hn, rfl⟩ := List.mem_map.mp (hids id (by simp))
    rw [List.filterMap_cons_some (get?_nodesById hunique hn), List.map_cons]
    exact List.Forall₂.cons (replays_visit hn) (ih fun id hid => hids id (by simp [hid]))

/-- Where ids are unique, the walk replays the trace. -/
theorem replays_walk {w : Workflow} (hunique : w.nodeIds.Nodup) :
    List.Forall₂ w.Replays w.trace (w.walk.map SimulationStep.visit) := by
  unfold trace walk
  rw [find?_start_eq]
  cases hstart : w.starts.head? with
  | none => exact List.Forall₂.nil
  | some start =>
    have hin : start ∈ w.nodes := List.mem_of_mem_filter (List.mem_of_head? hstart)
    have hroot : start.id ∈ w.nodeIds := List.mem_map.mpr ⟨start, hin, rfl⟩
    dsimp only
    rw [w.preorder_innerGraph hroot]
    apply map_filterMap_get? hunique
    intro id hid
    rcases Graph.mem_scope_of_mem_emit hid with hseen | hscope
    · simp at hseen
    · exact hscope

/-! ## Simulations -/

/-- A simulation is refused because of a blocking finding, and otherwise replays the
walk. -/
theorem result_simulateWith (w : Workflow) (findings : List Finding) :
    (w.simulateWith findings).result =
      if ∃ f ∈ findings, f.severity = .error then ⟨false, [], findings⟩
      else ⟨true, w.walk.map SimulationStep.visit, findings⟩ := by
  have hblocking : (!(findings.filter (·.isBlocking)).isEmpty) = true ↔
      ∃ f ∈ findings, f.severity = .error := by
    simp [Finding.isBlocking]
  unfold simulateWith
  by_cases h : ∃ f ∈ findings, f.severity = .error
  · simp only [hblocking.mpr h, if_true, if_pos h]
    rfl
  · have hnone : (!(findings.filter (·.isBlocking)).isEmpty) = false := by
      rw [← Bool.not_eq_true, hblocking]
      exact h
    simp only [hnone, if_neg h]
    rfl

end Workflow

namespace Document

open Workflow

/-- A simulation of an accepted document hands on whatever findings it is given.  It is
refused without any step if one of them is an error, and otherwise it succeeds and
replays the trace.  Without findings from elsewhere it takes those of the checks. -/
theorem simulateWith_replays_trace (d : Document) (findings : List Finding) :
    (d.workflow.simulateWith findings).result.findings = findings ∧
      (if ∃ f ∈ findings, f.severity = .error then
        (d.workflow.simulateWith findings).result.success = false ∧
          (d.workflow.simulateWith findings).result.steps = []
      else
        (d.workflow.simulateWith findings).result.success = true ∧
          List.Forall₂ d.workflow.Replays d.workflow.trace
            (d.workflow.simulateWith findings).result.steps) ∧
      d.workflow.simulate.result =
        (d.workflow.simulateWith d.workflow.validate.result).result := by
  rw [result_simulateWith]
  by_cases h : ∃ f ∈ findings, f.severity = .error
  · rw [if_pos h, if_pos h]
    exact ⟨rfl, ⟨rfl, rfl⟩, rfl⟩
  · rw [if_neg h, if_neg h]
    exact ⟨rfl, ⟨rfl, replays_walk d.nodup_nodeIds⟩, rfl⟩

end Document

end WorkflowEngine
