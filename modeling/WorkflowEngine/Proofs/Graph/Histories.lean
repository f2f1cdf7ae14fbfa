import Mathlib.Algebra.BigOperators.Group.Finset.Basic
import Mathlib.Algebra.Order.BigOperators.Group.Multiset
import Mathlib.Algebra.Ring.Nat
import WorkflowEngine.Analysis.Checks
import WorkflowEngine.Proofs.Document.UniqueIds
import WorkflowEngine.Proofs.Graph.Storage

/-!
# Graphs after a history of additions

Whatever nodes and edges are added to the empty graph, and in whatever order, the graph keeps
what the additions mention and nothing else.  Its nodes stand in order of first mention, and its
two families of lists hold the ends of the added edges in the order in which these were added.
The families are independent data, so that they agree with each other and with the counter is a
fact about every history.  The graph of a workflow is one such history, in which all nodes come
before the edges.
-/

namespace WorkflowEngine

namespace Graph

/-! ## Mentioned ids -/

/-- The ids that an addition mentions, the source of an edge before its target. -/
def Addition.mentions : Addition → List NodeId
  | .node id => [id]
  | .edge source target => [source, target]

/-- The ids that some additions mention, each as often as it is mentioned. -/
def mentions (additions : List Addition) : List NodeId := additions.flatMap Addition.mentions

theorem eraseDups_concat (ids : List NodeId) (id : NodeId) :
    (ids ++ [id]).eraseDups = if id ∈ ids then ids.eraseDups else ids.eraseDups ++ [id] := by
  rw [List.eraseDups_append]
  by_cases h : id ∈ ids
  · simp [List.removeAll, h]
  · simp [List.removeAll, h, List.eraseDups_cons]

theorem eraseDups_of_nodup {ids : List NodeId} (h : ids.Nodup) : ids.eraseDups = ids := by
  induction ids with
  | nil => rfl
  | cons id ids ih =>
    obtain ⟨hid, hids⟩ := List.nodup_cons.mp h
    have hrest : ids.filter (fun other => !other == id) = ids := by
      apply List.filter_eq_self.mpr
      intro other hother
      have hne : other ≠ id := fun heq => hid (heq ▸ hother)
      simp [hne]
    rw [List.eraseDups_cons, hrest, ih hids]

section Step

variable {g : Graph} {edges : List (NodeId × NodeId)} {ids : List NodeId}

theorem nodes_addNode_of_eraseDups (hg : g.Stores edges) (hids : g.nodes = ids.eraseDups)
    (id : NodeId) : (g.addNode id).nodes = (ids ++ [id]).eraseDups := by
  rw [nodes_addNode hg, eraseDups_concat, hids]
  simp only [List.mem_eraseDups]

/-- One more addition puts the ids it mentions behind the others, unless they are there. -/
theorem nodes_add (hg : g.Stores edges) (hids : g.nodes = ids.eraseDups) (addition : Addition) :
    (g.add addition).nodes = (ids ++ addition.mentions).eraseDups := by
  cases addition with
  | node id => exact nodes_addNode_of_eraseDups hg hids id
  | edge source target =>
    have hsource := nodes_addNode_of_eraseDups hg hids source
    have hboth := nodes_addNode_of_eraseDups (hg.addNode source) hsource target
    rw [List.append_assoc] at hboth
    exact hboth

theorem nodes_foldl_add (hg : g.Stores edges) (hids : g.nodes = ids.eraseDups)
    (additions : List Addition) :
    (additions.foldl add g).nodes = (ids ++ mentions additions).eraseDups := by
  induction additions generalizing g edges ids with
  | nil => simpa [mentions] using hids
  | cons addition additions ih =>
    have hrest := ih (hg.foldl_add [addition]) (nodes_add hg hids addition)
    rw [List.append_assoc] at hrest
    exact hrest

end Step

/-- The nodes of a graph are the ids mentioned by its history, in order of first mention. -/
theorem nodes_build (additions : List Addition) :
    (build additions).nodes = (mentions additions).eraseDups :=
  nodes_foldl_add stores_empty (show empty.nodes = ([] : List NodeId).eraseDups from rfl) additions

theorem mem_nodes_build {additions : List Addition} {id : NodeId} :
    id ∈ (build additions).nodes ↔ id ∈ mentions additions := by
  rw [nodes_build, List.mem_eraseDups]

/-! ## Counting edges -/

theorem count_targetsOf (edges : List (NodeId × NodeId)) (a b : NodeId) :
    (targetsOf edges a).count b = edges.count (a, b) := by
  rw [targetsOf, List.count, List.countP_map, List.countP_filter, List.count]
  congr 1
  funext e
  rw [Bool.eq_iff_iff]
  simp [Prod.ext_iff, and_comm]

theorem count_sourcesOf (edges : List (NodeId × NodeId)) (a b : NodeId) :
    (sourcesOf edges b).count a = edges.count (a, b) := by
  rw [sourcesOf_eq_targetsOf_swap, count_targetsOf, ← Prod.swap_prod_mk,
    List.count_map_of_injective _ _ Prod.swap_injective]

theorem length_targetsOf (edges : List (NodeId × NodeId)) (id : NodeId) :
    (targetsOf edges id).length = (edges.map Prod.fst).count id := by
  rw [targetsOf, List.length_map, ← List.countP_eq_length_filter, List.count, List.countP_map]
  congr 1

/-- Each edge is counted at exactly one of some distinct ids that include all sources. -/
theorem sum_length_targetsOf {ids : List NodeId} (hids : ids.Nodup)
    {edges : List (NodeId × NodeId)} (hsources : ∀ e ∈ edges, e.1 ∈ ids) :
    (ids.map fun id => (targetsOf edges id).length).sum = edges.length := by
  have hmem : ∀ id ∈ ((edges.map Prod.fst : List NodeId) : Multiset NodeId), id ∈ ids.toFinset := by
    intro id hid
    obtain ⟨e, he, rfl⟩ := List.mem_map.mp (Multiset.mem_coe.mp hid)
    exact List.mem_toFinset.mpr (hsources e he)
  calc (ids.map fun id => (targetsOf edges id).length).sum
      = ∑ id ∈ ids.toFinset, (targetsOf edges id).length := (List.sum_toFinset _ hids).symm
    _ = ∑ id ∈ ids.toFinset, Multiset.count id (edges.map Prod.fst : List NodeId) := by
      simp only [length_targetsOf, Multiset.coe_count]
    _ = edges.length := by
      rw [Multiset.sum_count_eq_card hmem, Multiset.coe_card, List.length_map]

theorem sum_length_sourcesOf {ids : List NodeId} (hids : ids.Nodup)
    {edges : List (NodeId × NodeId)} (htargets : ∀ e ∈ edges, e.2 ∈ ids) :
    (ids.map fun id => (sourcesOf edges id).length).sum = edges.length := by
  have hswap : ∀ e ∈ edges.map Prod.swap, e.1 ∈ ids := by
    intro e he
    obtain ⟨e', he', rfl⟩ := List.mem_map.mp he
    exact htargets e' he'
  simp only [sourcesOf_eq_targetsOf_swap]
  rw [sum_length_targetsOf hids hswap, List.length_map]

/-! ## Ids without edges -/

theorem targetsOf_eq_nil {edges : List (NodeId × NodeId)} {id : NodeId}
    (h : ∀ e ∈ edges, e.1 ≠ id) : targetsOf edges id = [] := by
  rw [targetsOf, List.filter_eq_nil_iff.mpr, List.map_nil]
  intro e he
  simpa using h e he

theorem sourcesOf_eq_nil {edges : List (NodeId × NodeId)} {id : NodeId}
    (h : ∀ e ∈ edges, e.2 ≠ id) : sourcesOf edges id = [] := by
  rw [sourcesOf_eq_targetsOf_swap]
  refine targetsOf_eq_nil fun e he => ?_
  obtain ⟨e', he', rfl⟩ := List.mem_map.mp he
  exact h e' he'

end Graph

/-! ## Graphs of workflows -/

namespace Workflow

open WorkflowEngine.Graph

/-- The ends of edges in document order, the source of each before its target. -/
def endpoints (w : Workflow) : List NodeId := w.edges.flatMap fun e => [e.source, e.target]

/-- The ends of edges that are no nodes, in order of first appearance. -/
def phantoms (w : Workflow) : List NodeId :=
  (w.endpoints.filter fun id => id ∉ w.nodes.map (·.id)).eraseDups

/-- The additions that make the graph of a workflow: its nodes, and then its edges. -/
def history (w : Workflow) : List Addition :=
  w.nodes.map (fun n => .node n.id) ++ w.edges.map fun e => .edge e.source e.target

theorem graph_eq_build (w : Workflow) : w.graph = build w.history := by
  simp [Workflow.graph, ofLists, build, history, List.foldl_append, List.foldl_map, add]

theorem mentions_history (w : Workflow) :
    mentions w.history = w.nodes.map (·.id) ++ w.endpoints := by
  rw [mentions, history, List.flatMap_append, List.flatMap_map, List.flatMap_map,
    List.map_eq_flatMap]
  rfl

/-- If the ids of the nodes are distinct, the graph lists them as they are and the phantoms
behind them. -/
theorem nodes_graph {w : Workflow} (hids : (w.nodes.map (·.id)).Nodup) :
    w.graph.nodes = w.nodes.map (·.id) ++ w.phantoms := by
  have hnew : w.endpoints.removeAll (w.nodes.map (·.id)) =
      w.endpoints.filter fun id => id ∉ w.nodes.map (·.id) := by
    rw [List.removeAll]
    congr 1
    funext id
    rw [List.elem_eq_mem, decide_not]
  rw [graph_eq_build, nodes_build, mentions_history, List.eraseDups_append,
    eraseDups_of_nodup hids, hnew, phantoms]

end Workflow

/-! ## Histories as a whole -/

namespace Graph

/-- After any history of additions a graph lists each mentioned id once, in order of first
mention, and keeps the ends of the added edges in order.  So both families of lists hold every
edge equally often, each of them holds as many entries as edges were counted, they hold nothing
but nodes, and an id that was never mentioned has empty lists.  The graph of a document lists the
nodes of the document in their order, and behind them the ends of edges that are no nodes. -/
theorem build_represents (additions : List Addition) :
    (build additions).nodes = (mentions additions).eraseDups ∧
      (build additions).nodes.Nodup ∧
      (∀ u, (build additions).successors u = targetsOf (edgesAmong additions) u) ∧
      (∀ v, (build additions).predecessors v = sourcesOf (edgesAmong additions) v) ∧
      (∀ u v, ((build additions).successors u).count v =
        ((build additions).predecessors v).count u) ∧
      ((build additions).nodes.map fun u => ((build additions).successors u).length).sum =
        (build additions).edgeCount ∧
      ((build additions).nodes.map fun v => ((build additions).predecessors v).length).sum =
        (build additions).edgeCount ∧
      (build additions).edgeCount = (edgesAmong additions).length ∧
      (∀ u v, v ∈ (build additions).successors u ∨ v ∈ (build additions).predecessors u →
        v ∈ (build additions).nodes) ∧
      (∀ u, u ∉ mentions additions →
        (build additions).successors u = [] ∧ (build additions).predecessors u = []) ∧
      ∀ d : Document, d.workflow.graph = build d.workflow.history ∧
        d.workflow.graph.nodes = d.workflow.nodes.map (·.id) ++ d.workflow.phantoms := by
  have hstores := stores_build additions
  refine ⟨nodes_build additions, hstores.nodup, hstores.successors, hstores.predecessors, ?_, ?_,
    ?_, hstores.edgeCount, ?_, ?_, fun d =>
      ⟨d.workflow.graph_eq_build, Workflow.nodes_graph d.nodup_nodeIds⟩⟩
  · intro u v
    rw [hstores.successors, hstores.predecessors, count_targetsOf, count_sourcesOf]
  · simp only [hstores.successors, hstores.edgeCount]
    exact sum_length_targetsOf hstores.nodup fun e he => (hstores.ends e he).1
  · simp only [hstores.predecessors, hstores.edgeCount]
    exact sum_length_sourcesOf hstores.nodup fun e he => (hstores.ends e he).2
  · rintro u v (hv | hv)
    · rw [hstores.successors, mem_targetsOf] at hv
      exact (hstores.ends _ hv).2
    · rw [hstores.predecessors, sourcesOf_eq_targetsOf_swap, mem_targetsOf] at hv
      obtain ⟨e, he, heq⟩ := List.mem_map.mp hv
      have hsource : e.1 = v := congrArg Prod.snd heq
      exact hsource ▸ (hstores.ends e he).1
  · intro u hu
    rw [← mem_nodes_build] at hu
    rw [hstores.successors, hstores.predecessors]
    exact ⟨targetsOf_eq_nil fun e he heq => hu (heq ▸ (hstores.ends e he).1),
      sourcesOf_eq_nil fun e he heq => hu (heq ▸ (hstores.ends e he).2)⟩

end Graph

end WorkflowEngine
