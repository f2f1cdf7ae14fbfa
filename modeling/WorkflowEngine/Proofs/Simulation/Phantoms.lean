import WorkflowEngine.Proofs.Document.Grammar
import WorkflowEngine.Proofs.Schema.Updating
import WorkflowEngine.Proofs.Simulation.Dependence
import WorkflowEngine.Proofs.Simulation.Reports

/-!
# Edges that leave the workflow

An edge may have an end that is no node.  The checks count such phantom ends as ids that walks
pass through, and the simulation skips them.  So a simulation that succeeds takes the same steps
when these edges are taken out of the document, and it never comes to a phantom.
-/

namespace WorkflowEngine

namespace Workflow

open Schema

/-! ## The workflow without phantom edges -/

/-- The workflow without the edges that have an end that is no node. -/
def inner (w : Workflow) : Workflow :=
  ⟨w.nodes, w.edges.filter fun e => e.source ∈ w.nodeIds ∧ e.target ∈ w.nodeIds⟩

theorem extends_inner (w : Workflow) : w.inner.Extends w :=
  ⟨rfl, fun _ he => List.mem_of_mem_filter he⟩

/-- Among nodes, the same ids come next. -/
theorem filter_targets_inner (w : Workflow) {id : NodeId} (hid : id ∈ w.nodeIds) :
    (w.inner.targets id).filter (· ∈ w.nodeIds) = (w.targets id).filter (· ∈ w.nodeIds) := by
  rw [← w.filter_targetsOf_innerPairs hid]
  simp only [targets, inner, Graph.targetsOf, innerPairs, List.filter_map, List.map_map,
    Function.comp_def]

theorem trace_inner (w : Workflow) : w.inner.trace = w.trace := by
  have hstarts : w.inner.starts = w.starts := rfl
  have hscope : w.inner.nodeIds = w.nodeIds := rfl
  rw [trace, trace, hstarts, hscope]
  cases w.starts.head? with
  | none => rfl
  | some start =>
    apply Graph.emit_congr_next
    intro id hid
    exact w.filter_targets_inner hid

theorem walk_inner (w : Workflow) : w.inner.walk = w.walk := by
  have hnodes : w.inner.nodesById = w.nodesById := rfl
  rw [walk_eq_filterMap_trace, walk_eq_filterMap_trace, w.trace_inner, hnodes]

/-! ## Simulations that succeed -/

/-- A simulation that succeeds visits the nodes of the walk. -/
theorem steps_of_success {w : Workflow} (h : w.simulate.result.success = true) :
    w.simulate.result.steps = w.walk.map SimulationStep.visit := by
  apply steps_simulate
  rw [← findings_eq_warranted]
  exact w.success_simulate_iff.mp h

/-- Taking phantom edges out blocks nothing. -/
theorem success_simulate_inner {w : Workflow} (h : w.simulate.result.success = true) :
    w.inner.simulate.result.success = true := by
  rw [success_simulate_iff] at h ⊢
  intro f hf herror
  have hblocking : f ∈ w.inner.validate.result.filter (·.isBlocking) := by
    simp [hf, Finding.isBlocking, herror]
  exact h f (List.mem_of_mem_filter (w.extends_inner.errors_sublist.subset hblocking)) herror

/-! ## The document without phantom edges -/

/-- The edges of a list that have both ends among some ids. -/
def edgesWithin (ids : List NodeId) (edges : Json) : Json :=
  .arr (edges.items.filter fun e =>
    (Edge.ofContent e).source ∈ ids ∧ (Edge.ofContent e).target ∈ ids)

/-- A value of a document without the edges that have an end that is no node. -/
def innerContent (document : Json) : Json :=
  .obj (document.members.update "edges" (edgesWithin (idsIn document "nodes")))

theorem ofContent_of_check_edge {v c : Json} (hc : edgeModel.shape.check v = .ok c) :
    Edge.ofContent v = Edge.ofContent c := by
  have hend : ∀ key : String, .required (.word key) (.leaf .filledText) ∈ edgeModel.fields →
      v.field key = c.field key := by
    intro key hf
    have hfield := Model.check_field_of_required distinct_edgeModel hc hf
    exact (Leaf.check_filledText_eq_ok_iff.mp hfield).1.symm
  rw [Edge.ofContent, Edge.ofContent, hend "source" (by simp [edgeModel, openModel]),
    hend "target" (by simp [edgeModel, openModel])]

theorem check_edgesWithin {v c : Json} (hc : (Shape.list edgeModel.shape).check v = .ok c)
    (ids : List NodeId) :
    (Shape.list edgeModel.shape).check (edgesWithin ids v) = .ok (edgesWithin ids c) := by
  rw [Shape.check_list_eq_ok_iff_forall₂] at hc ⊢
  obtain ⟨xs, cs, rfl, rfl, hall⟩ := hc
  refine ⟨_, _, rfl, rfl, List.rel_filter ?_ hall⟩
  intro x y hxy
  simp only [ofContent_of_check_edge hxy]

theorem field_innerContent (document : Json) {key : String} (hkey : key ≠ "edges") :
    (innerContent document).field key = document.field key := by
  rw [innerContent, Json.field, Members.get?_update]
  cases document with
  | obj o => simp [hkey, Json.members, Json.field]
  | _ => rfl

theorem edges_innerContent (document : Json) :
    ((innerContent document).field "edges").items =
      (edgesWithin (idsIn document "nodes") (document.field "edges")).items := by
  rw [innerContent, Json.field, Members.get?_update]
  cases document with
  | obj o =>
    rw [Json.members, Json.field]
    cases Members.get? o "edges" with
    | none => rfl
    | some edges => simp
  | _ => rfl

/-- A document without its phantom edges is a document. -/
theorem check_innerContent {v c : Json} (hc : documentShape.check v = .ok c) :
    documentShape.check (innerContent v) = .ok (innerContent c) := by
  obtain ⟨hgraph, hunique⟩ := (Shape.check_refine_eq_ok_iff _ _ _ _).mp hc
  have hids : idsIn v "nodes" = idsIn c "nodes" := (nodes_of_check hgraph).1.symm
  obtain ⟨o, members, rfl, rfl, hmembers⟩ := Model.check_shape_eq_ok_iff.mp hgraph
  refine (Shape.check_refine_eq_ok_iff _ _ _ _).mpr
    ⟨Model.check_shape_eq_ok_iff.mpr ⟨_, _, rfl, rfl, ?_⟩, ?_⟩
  · rw [hids]
    refine Model.checkMembers_update hmembers
      (f := .required (.word "edges") (.list edgeModel.shape)) rfl ?_ ?_
    · intro g hg
      rw [fields_graphModel, List.mem_cons, List.mem_singleton] at hg
      rcases hg with rfl | rfl
      · exact Or.inr (by decide)
      · exact Or.inl rfl
    · intro edges w hw
      exact check_edgesWithin hw _
  · rw [repetition?_eq_none_iff] at hunique ⊢
    refine ⟨?_, ?_⟩
    · rw [idsIn, field_innerContent _ (by decide)]
      exact hunique.1
    · rw [idsIn, edges_innerContent]
      exact hunique.2.sublist (List.filter_sublist.map _)

end Workflow

namespace Document

open Workflow

/-- The document without the edges that have an end that is no node. -/
def inner (d : Document) : Document where
  content := innerContent d.content
  accepted := d.accepted.imp' innerContent fun _ => check_innerContent

theorem workflow_inner (d : Document) : d.inner.workflow = d.workflow.inner := by
  have hnodes : d.inner.nodes = d.nodes := by
    rw [nodes, nodes, inner, field_innerContent _ (by decide)]
  have hids : idsIn d.content "nodes" = d.workflow.nodeIds := by
    rw [idsIn, nodeIds, workflow, List.map_map]
    rfl
  have hedges : d.inner.edges =
      (edgesWithin d.workflow.nodeIds (d.content.field "edges")).items := by
    rw [edges, inner, edges_innerContent, hids]
  rw [workflow, Workflow.inner, hnodes, hedges]
  simp only [edgesWithin, Json.items, workflow, edges, List.filter_map]
  rfl

/-- A simulation that succeeds also succeeds, with the same steps, without the edges that have an
end that is no node, and each of its steps visits a node. -/
theorem simulate_inner (d : Document) (h : d.workflow.simulate.result.success = true) :
    d.inner.workflow = d.workflow.inner ∧
      d.inner.workflow.simulate.result.success = true ∧
      d.inner.workflow.simulate.result.steps = d.workflow.simulate.result.steps ∧
      (∀ s ∈ d.workflow.simulate.result.steps, s.node ∈ d.workflow.nodeIds) ∧
      ∀ s ∈ d.inner.workflow.simulate.result.steps, s.node ∈ d.workflow.nodeIds := by
  have hinner := success_simulate_inner h
  have hsame : d.workflow.inner.simulate.result.steps = d.workflow.simulate.result.steps := by
    rw [steps_of_success hinner, steps_of_success h, walk_inner]
  have hnodes : ∀ s ∈ d.workflow.simulate.result.steps, s.node ∈ d.workflow.nodeIds := by
    rw [steps_of_success h]
    intro s hs
    obtain ⟨n, hn, rfl⟩ := List.mem_map.mp hs
    exact List.mem_map_of_mem (walk_subset d.nodup_nodeIds hn)
  rw [d.workflow_inner, hsame]
  exact ⟨rfl, hinner, rfl, hnodes, hnodes⟩

/-- A workflow in which edges lead from nodes to phantoms, between phantoms, and from a phantom
back to a node, in between the edges that lead from node to node. -/
def haunted : Json :=
  bareDocument [bareNode "s" .start, bareNode "a" .task, bareNode "e" .finish]
    [bareEdge "1" "s" "ghost", bareEdge "2" "s" "a", bareEdge "3" "ghost" "shade",
      bareEdge "4" "shade" "e", bareEdge "5" "a" "void", bareEdge "6" "a" "e"]

theorem simulate_inner_haunted :
    ∃ d, Document.ofJson haunted = .ok d ∧ d.workflow.simulate.result.success = true ∧
      d.inner.workflow.edges = [⟨"s", "a"⟩, ⟨"a", "e"⟩] ∧
      d.inner.workflow.simulate.result.success = true ∧
      d.inner.workflow.simulate.result.steps = d.workflow.simulate.result.steps ∧
      d.workflow.simulate.result.steps.map (·.node) = ["s", "a", "e"] := by
  have haccepted : (Document.ofJson haunted).toOption.map
      (fun d => (d.workflow.simulate.result.success, d.inner.workflow.edges,
        d.workflow.simulate.result.steps.map (·.node))) =
        some (true, [⟨"s", "a"⟩, ⟨"a", "e"⟩], ["s", "a", "e"]) := by
    decide +kernel
  obtain ⟨d, hd, hview⟩ := exists_of_toOption_map haccepted
  obtain ⟨hsuccess, hrest⟩ := Prod.mk.inj hview
  obtain ⟨hedges, hsteps⟩ := Prod.mk.inj hrest
  obtain ⟨-, hinner, hsame, -⟩ := simulate_inner d hsuccess
  exact ⟨d, hd, hsuccess, hedges, hinner, hsame, hsteps⟩

end Document

end WorkflowEngine
