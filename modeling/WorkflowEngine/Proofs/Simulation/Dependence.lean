import WorkflowEngine.Proofs.Analysis.MoreEdges
import WorkflowEngine.Proofs.Simulation.Coverage

/-!
# What the engine depends on

The checks depend on the nodes of a workflow, each with its id, kind and label, and on which
edges there are.  The walk depends on the order of the edges as well, but only on the first
of several edges between the same ends: when a walk comes to the others, it has been where
they lead.  Nothing else in a document makes a difference.
-/

namespace WorkflowEngine

namespace Workflow

/-! ## Parallel edges -/

theorem eq_iff_target_eq {a b : Edge} (hsource : a.source = b.source) :
    a = b ↔ a.target = b.target := by
  constructor
  · exact congrArg Edge.target
  · intro htarget
    cases a
    cases b
    simp_all

/-- The targets of an id without repetitions are those of the edges without repetitions. -/
theorem eraseDups_map_target (edges : List Edge) (id : NodeId) :
    ((edges.filter (·.source = id)).map (·.target)).eraseDups =
      (edges.eraseDups.filter (·.source = id)).map (·.target) := by
  match edges with
  | [] => rfl
  | e :: rest =>
    have ih := eraseDups_map_target (rest.filter fun other => !other == e) id
    rw [List.filter_filter] at ih
    rw [List.eraseDups_cons]
    by_cases hsource : e.source = id
    · -- Among the edges that leave the id, the same target means the same edge.
      have hrest : (rest.filter fun other =>
          !other.target == e.target && decide (other.source = id)) =
          rest.filter fun other => decide (other.source = id) && !other == e := by
        apply List.filter_congr
        intro other _
        by_cases hother : other.source = id
        · have hsame := eq_iff_target_eq (hother.trans hsource.symm)
          rw [Bool.eq_iff_iff]
          simp [hother, hsame]
        · simp [hother]
      rw [List.filter_cons_of_pos (by simpa using hsource),
        List.filter_cons_of_pos (by simpa using hsource), List.map_cons, List.map_cons,
        List.eraseDups_cons, ← ih, List.filter_map, List.filter_filter]
      exact congrArg (fun kept => e.target :: (kept.map Edge.target).eraseDups) hrest
    · have hrest : rest.filter (·.source = id) =
          rest.filter fun other => decide (other.source = id) && !other == e := by
        apply List.filter_congr
        intro other _
        by_cases hother : other.source = id
        · have hne : other ≠ e := fun heq => hsource (heq ▸ hother)
          simp [hne]
        · simp [hother]
      rw [List.filter_cons_of_neg (by simpa using hsource),
        List.filter_cons_of_neg (by simpa using hsource), ← ih, hrest]
termination_by edges.length
decreasing_by exact Nat.lt_succ_of_le (List.length_filter_le _ _)

/-- What comes next to an id, repetitions apart, follows from the edges without repetitions. -/
theorem eraseDups_targets (w : Workflow) (id : NodeId) :
    (w.targets id).eraseDups = (w.edges.eraseDups.filter (·.source = id)).map (·.target) :=
  eraseDups_map_target w.edges id

/-! ## The walk -/

/-- The walk looks up the nodes of the trace. -/
theorem walk_eq_filterMap_trace (w : Workflow) :
    w.walk = w.trace.filterMap fun id => w.nodesById.get? id := by
  rw [walk, trace, find?_start_eq]
  cases hstart : w.starts.head? with
  | none => rfl
  | some start =>
    have hin : start ∈ w.nodes := List.mem_of_mem_filter (List.mem_of_head? hstart)
    dsimp only
    rw [w.preorder_innerGraph (List.mem_map_of_mem hin)]

/-- Two workflows agree on their nodes, and on their edges but for later ones between the same
ends. -/
structure SameCourse (w w' : Workflow) : Prop where
  nodes : w'.nodes = w.nodes
  edges : w'.edges.eraseDups = w.edges.eraseDups

namespace SameCourse

variable {w w' : Workflow} (h : w.SameCourse w')
include h

theorem trace_eq : w'.trace = w.trace := by
  have hstarts : w'.starts = w.starts := by rw [starts, starts, h.nodes]
  have hscope : w'.nodeIds = w.nodeIds := by rw [nodeIds, nodeIds, h.nodes]
  rw [trace, trace, hstarts, hscope]
  cases w.starts.head? with
  | none => rfl
  | some start =>
    apply Graph.emit_congr
    intro id _ seen
    rw [← Graph.emit_eraseDups seen (w'.targets id), eraseDups_targets, h.edges,
      ← eraseDups_targets, Graph.emit_eraseDups]

theorem walk_eq : w'.walk = w.walk := by
  rw [walk_eq_filterMap_trace, walk_eq_filterMap_trace, h.trace_eq, nodesById, nodesById, h.nodes]

theorem mem_edges_iff (e : Edge) : e ∈ w'.edges ↔ e ∈ w.edges := by
  rw [← List.mem_eraseDups, h.edges, List.mem_eraseDups]

theorem result_simulateWith_eq (findings : List Finding) :
    (w'.simulateWith findings).result = (w.simulateWith findings).result := by
  rw [result_simulateWith, result_simulateWith, h.walk_eq]

end SameCourse

theorem validate_eq_of_same_edges {w w' : Workflow} (hnodes : w'.nodes = w.nodes)
    (hedges : ∀ e, e ∈ w'.edges ↔ e ∈ w.edges) : w'.validate.result = w.validate.result := by
  have hextends : w.Extends w' := ⟨hnodes, fun e he => (hedges e).mpr he⟩
  exact hextends.validate_eq ⟨hnodes.symm, fun e he => (hedges e).mp he⟩

end Workflow

namespace Document

open Workflow

/-- Whatever else is written in two documents, they are checked alike if they agree on the id,
kind and label of each node and have edges between the same ends, and they are walked alike
if in addition the edges between new ends come in the same order. -/
theorem checked_and_walked_alike {d d' : Document}
    (hnodes : d'.workflow.nodes = d.workflow.nodes) :
    ((∀ e, e ∈ d'.workflow.edges ↔ e ∈ d.workflow.edges) →
        d'.workflow.validate.result = d.workflow.validate.result) ∧
      (d'.workflow.edges.eraseDups = d.workflow.edges.eraseDups →
        d'.workflow.walk.map SimulationStep.visit = d.workflow.walk.map SimulationStep.visit ∧
          (∀ findings, (d'.workflow.simulateWith findings).result =
            (d.workflow.simulateWith findings).result) ∧
          d'.workflow.simulate.result = d.workflow.simulate.result) := by
  refine ⟨validate_eq_of_same_edges hnodes, ?_⟩
  intro hedges
  have hcourse : d.workflow.SameCourse d'.workflow := ⟨hnodes, hedges⟩
  have hfindings := validate_eq_of_same_edges hnodes hcourse.mem_edges_iff
  refine ⟨congrArg _ hcourse.walk_eq, hcourse.result_simulateWith_eq, ?_⟩
  have hresult : ∀ w : Workflow,
      w.simulate.result = (w.simulateWith w.validate.result).result := fun _ => rfl
  rw [hresult, hresult, hfindings, hcourse.result_simulateWith_eq]

/-- A node with a place, a look and a color, which the engine does not see. -/
def paintedNode (id : String) (k : NodeKind) : Json :=
  .obj [("color", .str "red"), ("id", .str id), ("type", .str "card"),
    ("position", .obj [("x", .int 7)]),
    ("data", .obj [("id", .str "copy"), ("type", .str k.name), ("title", .str "Hello")])]

/-- The forked workflow in other clothes, with some of its edges drawn twice. -/
def paintedFork : Json :=
  .obj [("edges", .arr [bareEdge "9" "s" "a", bareEdge "8" "s" "a", bareEdge "7" "s" "b",
      bareEdge "6" "a" "e", bareEdge "5" "s" "a", bareEdge "4" "b" "e", bareEdge "3" "s" "b"]),
    ("nodes", .arr [paintedNode "s" .start, bareNode "a" .task, bareNode "b" .approval,
      paintedNode "e" .finish])]

theorem checked_and_walked_alike_painted :
    ∃ d d', Document.ofJson forked = .ok d ∧ Document.ofJson paintedFork = .ok d' ∧
      d'.workflow.nodes = d.workflow.nodes ∧ d'.workflow.edges ≠ d.workflow.edges ∧
      d'.workflow.validate.result = d.workflow.validate.result ∧
      d'.workflow.simulate.result = d.workflow.simulate.result := by
  have hforked : (Document.ofJson forked).toOption.map Document.workflow =
      some ⟨[⟨"s", .start, ""⟩, ⟨"a", .task, ""⟩, ⟨"b", .approval, ""⟩, ⟨"e", .finish, ""⟩],
        [⟨"s", "a"⟩, ⟨"s", "b"⟩, ⟨"a", "e"⟩, ⟨"b", "e"⟩]⟩ := by
    decide +kernel
  have hpainted : (Document.ofJson paintedFork).toOption.map Document.workflow =
      some ⟨[⟨"s", .start, ""⟩, ⟨"a", .task, ""⟩, ⟨"b", .approval, ""⟩, ⟨"e", .finish, ""⟩],
        [⟨"s", "a"⟩, ⟨"s", "a"⟩, ⟨"s", "b"⟩, ⟨"a", "e"⟩, ⟨"s", "a"⟩, ⟨"b", "e"⟩,
          ⟨"s", "b"⟩]⟩ := by
    decide +kernel
  obtain ⟨d, hd, hview⟩ := exists_of_toOption_map hforked
  obtain ⟨d', hd', hview'⟩ := exists_of_toOption_map hpainted
  have hnodes : d'.workflow.nodes = d.workflow.nodes := by rw [hview, hview']
  have hedges : d'.workflow.edges.eraseDups = d.workflow.edges.eraseDups := by
    rw [hview, hview']
    decide
  obtain ⟨hchecked, hwalked⟩ := checked_and_walked_alike hnodes
  refine ⟨d, d', hd, hd', hnodes, ?_, hchecked ?_, (hwalked hedges).2.2⟩
  · rw [hview, hview']
    decide
  · intro e
    rw [← List.mem_eraseDups, hedges, List.mem_eraseDups]

end Document

end WorkflowEngine
