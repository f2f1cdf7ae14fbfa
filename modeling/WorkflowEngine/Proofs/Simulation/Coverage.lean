import WorkflowEngine.Proofs.Analysis.DeadEnds
import WorkflowEngine.Proofs.Simulation.Trace

/-!
# What a simulation covers

Where all ends of edges are nodes, the trace visits exactly the ids that the start node
leads to, which is what the check for disconnected nodes computes on a graph of its own.
If no finding speaks against it, the trace visits every node and comes to an end node.
-/

namespace WorkflowEngine

namespace Workflow

/-- All ends of edges are nodes of the workflow. -/
def EndsAreNodes (w : Workflow) : Prop :=
  ∀ e ∈ w.edges, e.source ∈ w.nodeIds ∧ e.target ∈ w.nodeIds

/-! ## The trace visits what the start node leads to -/

theorem mem_targets_iff {w : Workflow} {a b : NodeId} : b ∈ w.targets a ↔ w.Joins a b := by
  simp [targets, Joins, and_assoc]

theorem EndsAreNodes.goesOn_eq {w : Workflow} (hends : w.EndsAreNodes) :
    Graph.GoesOn w.targets w.nodeIds = w.Joins := by
  funext a b
  rw [Graph.GoesOn, mem_targets_iff, eq_iff_iff, and_iff_left_iff_imp]
  rintro ⟨e, he, -, rfl⟩
  exact (hends e he).2

theorem EndsAreNodes.mem_trace_iff {w : Workflow} (hends : w.EndsAreNodes) {start : Node}
    (hstart : w.starts = [start]) (id : NodeId) :
    id ∈ w.trace ↔ w.Leads start.id id := by
  have hin : start ∈ w.nodes := List.mem_of_mem_filter (by rw [← starts, hstart]; simp)
  have hroot : start.id ∈ w.nodeIds := List.mem_map_of_mem hin
  rw [trace, hstart, List.head?_cons]
  dsimp only
  rw [Graph.mem_recursiveWalk_iff hroot, hends.goesOn_eq]

theorem nodup_trace (w : Workflow) : w.trace.Nodup := by
  rw [trace]
  split
  · exact Graph.nodup_emit List.nodup_nil
  · exact List.nodup_nil

/-- The ids of the steps that replay some ids are these ids. -/
theorem map_node_eq_of_replays {w : Workflow} {ids : List NodeId} {steps : List SimulationStep}
    (h : List.Forall₂ w.Replays ids steps) : steps.map (·.node) = ids := by
  induction h with
  | nil => rfl
  | cons hstep _ ih =>
    obtain ⟨n, -, hid, hnode, -⟩ := hstep.visits
    rw [List.map_cons, ih, hnode, hid]

theorem exists_replays_of_mem {w : Workflow} {ids : List NodeId} {steps : List SimulationStep}
    (h : List.Forall₂ w.Replays ids steps) {s : SimulationStep} (hs : s ∈ steps) :
    ∃ id ∈ ids, w.Replays id s := by
  induction h with
  | nil => simp at hs
  | cons hstep _ ih =>
    rcases List.mem_cons.mp hs with rfl | hs
    · exact ⟨_, by simp, hstep⟩
    · obtain ⟨id, hid, hreplays⟩ := ih hs
      exact ⟨id, by simp [hid], hreplays⟩

/-! ## What the absence of findings says -/

section Clean

variable {w : Workflow}

theorem not_cyclic_of_no_error (hclean : ∀ f ∈ w.warranted, f.severity ≠ .error) :
    ¬ w.Cyclic := by
  intro hcyclic
  refine hclean
    { node := none, edge := none, code := .cycleDetected, severity := .error,
      message := "Workflow contains cycles. Cyclic workflows are not supported" } ?_ rfl
  simp [warranted, hcyclic]

theorem connected_of_no_disconnectedNodes
    (hclean : ∀ f ∈ w.warranted, f.code ≠ .disconnectedNodes)
    (hstart : ∃ n ∈ w.nodes, n.kind = .start) {n : Node} (hn : n ∈ w.nodes) : w.Connected n := by
  by_contra hnot
  have hstranded : ∃ n ∈ w.nodes, ¬ w.Connected n := ⟨n, hn, hnot⟩
  refine hclean
    { node := none, edge := none, code := .disconnectedNodes, severity := .warning,
      message := "Disconnected nodes detected: " ++
        Text.intercalate ", " (w.stranded.map Node.displayName) } ?_ rfl
  simp only [warranted, if_pos (And.intro hstart hstranded), List.mem_append, List.mem_singleton]
  tauto

theorem leaves_of_no_incompletePath (hclean : ∀ f ∈ w.warranted, f.code ≠ .incompletePath)
    {n : Node} (hn : n ∈ w.nodes) (hkind : n.kind ≠ .finish) : w.Leaves n.id := by
  by_contra hnot
  have hdead : n ∈ w.deadEnds := by simp [deadEnds, hn, hkind, hnot]
  refine hclean
    { node := some n.id, edge := none, code := .incompletePath, severity := .warning,
      message :=
        "Node \"" ++ n.displayName ++
          "\" has no outgoing connections and is not an End Node" } ?_ rfl
  exact List.mem_append_right _ (List.mem_map_of_mem hdead)

end Clean

/-! ## Walks come to an end -/

theorem EndsAreNodes.targetsAreNodes {w : Workflow} (hends : w.EndsAreNodes) :
    w.TargetsAreNodes := by
  intro e he
  exact List.mem_map.mp (hends e he).2

theorem EndsAreNodes.exists_last {w : Workflow} (hends : w.EndsAreNodes)
    (hacyclic : ¬ w.Cyclic) {start : Node} (hstart : start ∈ w.nodes) :
    ∃ n ∈ w.nodes, w.Leads start.id n.id ∧ ¬ w.Leaves n.id :=
  hends.targetsAreNodes.exists_last hacyclic hstart

/-! ## Steps and nodes -/

/-- A simulation that nothing blocks visits the nodes of the walk. -/
theorem steps_simulate {w : Workflow} (hclean : ∀ f ∈ w.warranted, f.severity ≠ .error) :
    w.simulate.result.steps = w.walk.map SimulationStep.visit := by
  have hfindings : w.simulate.result = (w.simulateWith w.findings).result := rfl
  have hnone : ¬ ∃ f ∈ w.findings, f.severity = .error := by
    rw [findings_eq_warranted]
    rintro ⟨f, hf, herror⟩
    exact hclean f hf herror
  rw [hfindings, result_simulateWith, if_neg hnone]

/-- Each node of the walk is a node of the workflow. -/
theorem walk_subset {w : Workflow} (hunique : w.nodeIds.Nodup) : w.walk ⊆ w.nodes := by
  intro n hn
  obtain ⟨id, -, hreplays⟩ :=
    exists_replays_of_mem (replays_walk hunique) (List.mem_map_of_mem hn)
  obtain ⟨m, hm, -, hid, hkind, hlabel, -⟩ := hreplays.visits
  have hsame : n = m := by
    cases n
    cases m
    simp_all [SimulationStep.visit]
  rwa [hsame]

theorem map_id_walk {w : Workflow} (hunique : w.nodeIds.Nodup) : w.walk.map (·.id) = w.trace := by
  have hnodes := map_node_eq_of_replays (replays_walk hunique)
  rwa [List.map_map] at hnodes

theorem mem_walk {w : Workflow} (hunique : w.nodeIds.Nodup) {n : Node} (hn : n ∈ w.nodes)
    (hid : n.id ∈ w.trace) : n ∈ w.walk := by
  rw [← map_id_walk hunique] at hid
  obtain ⟨m, hm, hsame⟩ := List.mem_map.mp hid
  rwa [← List.inj_on_of_nodup_map hunique (walk_subset hunique hm) hn hsame]

/-- A walk whose trace has the id of every node visits the nodes in some order. -/
theorem perm_walk {w : Workflow} (hunique : w.nodeIds.Nodup)
    (hall : ∀ n ∈ w.nodes, n.id ∈ w.trace) : w.walk.Perm w.nodes := by
  have hwalk : w.walk.Nodup := by
    apply List.Nodup.of_map (·.id)
    rw [map_id_walk hunique]
    exact w.nodup_trace
  have hnodes : w.nodes.Nodup := List.Nodup.of_map _ hunique
  rw [List.perm_ext_iff_of_nodup hwalk hnodes]
  intro n
  constructor
  · intro hn
    exact walk_subset hunique hn
  · intro hn
    exact mem_walk hunique hn (hall n hn)

end Workflow

namespace Document

open Workflow

/-- If all ends of edges are nodes, no finding is an error and there is one start node, a
simulation visits exactly the ids that the check for disconnected nodes reaches from the
start.  If no node is disconnected it visits each node once, and if no path is incomplete
it comes to an end node. -/
theorem simulate_covers (d : Document) (hends : d.workflow.EndsAreNodes)
    (hvalid : ∀ f ∈ d.workflow.validate.result, f.severity ≠ .error)
    (hstart : d.workflow.starts.length = 1) :
    (∀ id, id ∈ d.workflow.simulate.result.steps.map (·.node) ↔
        (d.workflow.graph.reachableFrom (d.workflow.idsOfKind .start)).contains id = true) ∧
      ((∀ f ∈ d.workflow.validate.result, f.code ≠ .disconnectedNodes) →
        d.workflow.simulate.result.steps.Perm (d.workflow.nodes.map SimulationStep.visit) ∧
          (d.workflow.simulate.result.steps.map (·.node)).Nodup) ∧
      ((∀ f ∈ d.workflow.validate.result, f.code ≠ .incompletePath) →
        ∃ s ∈ d.workflow.simulate.result.steps, s.kind = .finish) := by
  have hresult : d.workflow.validate.result = d.workflow.warranted :=
    d.workflow.findings_eq_warranted
  rw [hresult] at hvalid
  rw [hresult, steps_simulate hvalid]
  obtain ⟨start, hstarts⟩ := List.length_eq_one_iff.mp hstart
  have hunique : d.workflow.nodeIds.Nodup := d.nodup_nodeIds
  have hreplays := replays_walk hunique
  have hnodes := map_node_eq_of_replays hreplays
  have hin : start ∈ d.workflow.nodes ∧ start.kind = .start := by
    have hmem : start ∈ d.workflow.starts := by rw [hstarts]; simp
    simpa [starts] using hmem
  have htrace := hends.mem_trace_iff hstarts
  refine ⟨?_, ?_, ?_⟩
  · intro id
    have hids : d.workflow.idsOfKind .start = [start.id] := by
      have hkind : d.workflow.ofKind .start = d.workflow.starts := rfl
      rw [idsOfKind, hkind, hstarts, List.map_singleton]
    rw [hnodes, htrace, hids, d.workflow.stores_graph.contains_reachableFrom, Graph.Leads,
      joins_pairs]
    simp
  · intro hconnected
    refine ⟨List.Perm.map _ (perm_walk hunique ?_), hnodes ▸ d.workflow.nodup_trace⟩
    intro n hn
    obtain ⟨⟨s, hs, hkind, hwalk⟩, -⟩ :=
      connected_of_no_disconnectedNodes hconnected ⟨start, hin⟩ hn
    have hsame : s ∈ d.workflow.starts := by simp [starts, hs, hkind]
    rw [hstarts, List.mem_singleton] at hsame
    rw [htrace, ← hsame]
    exact hwalk
  · intro hcomplete
    obtain ⟨n, hn, hwalk, hlast⟩ :=
      hends.exists_last (not_cyclic_of_no_error hvalid) hin.1
    have hkind : n.kind = .finish := by
      by_contra hother
      exact hlast (leaves_of_no_incompletePath hcomplete hn hother)
    have hvisited : n ∈ d.workflow.walk := mem_walk hunique hn ((htrace n.id).mpr hwalk)
    exact ⟨SimulationStep.visit n, List.mem_map_of_mem hvisited, hkind⟩

/-- A workflow in which two paths lead from the start to the end. -/
def forked : Json :=
  bareDocument
    [bareNode "s" .start, bareNode "a" .task, bareNode "b" .approval, bareNode "e" .finish]
    [bareEdge "1" "s" "a", bareEdge "2" "s" "b", bareEdge "3" "a" "e", bareEdge "4" "b" "e"]

theorem simulate_covers_forked :
    ∃ d, Document.ofJson forked = .ok d ∧ d.workflow.EndsAreNodes ∧
      d.workflow.validate.result = [] ∧ d.workflow.starts.length = 1 ∧
        d.workflow.simulate.result.steps.Perm (d.workflow.nodes.map SimulationStep.visit) ∧
          ∃ s ∈ d.workflow.simulate.result.steps, s.kind = .finish := by
  have haccepted : (Document.ofJson forked).toOption.map
      (fun d => (d.workflow.edges.all
        (fun e => d.workflow.nodeIds.contains e.source && d.workflow.nodeIds.contains e.target),
        d.workflow.validate.result, d.workflow.starts.length)) = some (true, [], 1) := by
    decide +kernel
  cases hd : Document.ofJson forked with
  | error issues =>
    rw [hd] at haccepted
    cases haccepted
  | ok d =>
    rw [hd] at haccepted
    obtain ⟨hedges, hrest⟩ := Prod.mk.inj (Option.some.inj haccepted)
    obtain ⟨hfindings, hstart⟩ := Prod.mk.inj hrest
    have hends : d.workflow.EndsAreNodes := by
      intro e he
      simpa using List.all_eq_true.mp hedges e he
    obtain ⟨-, hperm, hfinish⟩ :=
      simulate_covers d hends (by rw [hfindings]; simp) hstart
    rw [hfindings] at hperm hfinish
    exact ⟨d, rfl, hends, hfindings, hstart, (hperm (by simp)).1, hfinish (by simp)⟩

end Document

end WorkflowEngine
