import Mathlib.Data.Fintype.Card
import Mathlib.Data.Set.Finite.Basic
import Mathlib.Order.WellFounded
import WorkflowEngine.Proofs.Analysis.Codes
import WorkflowEngine.Proofs.Document.Bare
import WorkflowEngine.Proofs.Document.UniqueIds
import WorkflowEngine.Proofs.Json.Content

/-!
# Dead ends and the way to an end node

Walks in a workflow without cycles come to a node that no edge leaves.  Whether such nodes
are end nodes is what the check for incomplete paths looks at, node by node, and whether a
walk leads to an end node is what the check for disconnected nodes computes.  So the two
checks agree on whether something is amiss, and a dead end is always disconnected.
-/

namespace WorkflowEngine

namespace Workflow

/-! ## Walks come to an end -/

/-- All edges lead to nodes of the workflow. -/
def TargetsAreNodes (w : Workflow) : Prop := ∀ e ∈ w.edges, ∃ n ∈ w.nodes, n.id = e.target

/-- Where no walk leads back to where it began, some walk from each node comes to a node that
no edge leaves. -/
theorem TargetsAreNodes.exists_last {w : Workflow} (htargets : w.TargetsAreNodes)
    (hacyclic : ¬ w.Cyclic) {start : Node} (hstart : start ∈ w.nodes) :
    ∃ n ∈ w.nodes, w.Leads start.id n.id ∧ ¬ w.Leaves n.id := by
  have hfinite : Finite {n // n ∈ w.nodes} := (List.finite_toSet w.nodes).to_subtype
  let Later : {n // n ∈ w.nodes} → {n // n ∈ w.nodes} → Prop :=
    fun a b => Relation.TransGen w.Joins b.1.id a.1.id
  have htrans : IsTrans _ Later := ⟨fun a b c hab hbc => hbc.trans hab⟩
  have hirrefl : Std.Irrefl Later := ⟨fun a ha => hacyclic ⟨a.1.id, ha⟩⟩
  have hwf : WellFounded Later := Finite.wellFounded_of_trans_of_irrefl Later
  obtain ⟨⟨n, hn⟩, hled, hlast⟩ := hwf.has_min {n | w.Leads start.id n.1.id}
    ⟨⟨start, hstart⟩, Relation.ReflTransGen.refl⟩
  refine ⟨n, hn, hled, ?_⟩
  rintro ⟨e, he, hsource⟩
  obtain ⟨m, hm, hid⟩ := htargets e he
  have hedge : w.Joins n.id m.id := ⟨e, he, hsource, hid.symm⟩
  exact hlast ⟨m, hm⟩ (hled.tail hedge) (Relation.TransGen.single hedge)

/-- From an id that no edge leaves a walk leads nowhere else. -/
theorem Leads.eq_of_not_leaves {w : Workflow} {a b : NodeId} (hwalk : w.Leads a b)
    (hlast : ¬ w.Leaves a) : a = b := by
  rcases Relation.ReflTransGen.cases_head hwalk with heq | ⟨c, ⟨e, he, hsource, -⟩, -⟩
  · exact heq
  · exact absurd ⟨e, he, hsource⟩ hlast

/-! ## Dead ends -/

theorem mem_deadEnds_iff {w : Workflow} {n : Node} :
    n ∈ w.deadEnds ↔ n ∈ w.nodes ∧ n.kind ≠ .finish ∧ ¬ w.Leaves n.id := by
  simp [deadEnds]

/-- The nodes reported as incomplete paths are the dead ends. -/
theorem mem_under_incompletePath_iff {w : Workflow} {f : Finding} :
    f ∈ Checks.under w .incompletePath ↔
      ∃ n ∈ w.deadEnds, f =
        { node := some n.id, edge := none, code := .incompletePath, severity := .warning,
          message :=
            "Node \"" ++ n.displayName ++
              "\" has no outgoing connections and is not an End Node" } := by
  rw [Checks.under, Checks.incompletePaths_eq, List.mem_map]
  simp only [eq_comm]

/-- A node has a walk to an end node. -/
def Finishes (w : Workflow) (n : Node) : Prop :=
  ∃ t ∈ w.nodes, t.kind = .finish ∧ w.Leads n.id t.id

/-- No walk leads from a dead end to an end node. -/
theorem not_finishes_of_mem_deadEnds {w : Workflow} (hunique : (w.nodes.map (·.id)).Nodup)
    {n : Node} (hn : n ∈ w.deadEnds) : ¬ w.Finishes n := by
  obtain ⟨hin, hkind, hlast⟩ := mem_deadEnds_iff.mp hn
  rintro ⟨t, ht, hfinish, hwalk⟩
  have hsame : n = t := List.inj_on_of_nodup_map hunique hin ht (hwalk.eq_of_not_leaves hlast)
  rw [hsame] at hkind
  exact hkind hfinish

/-- Without cycles, a node that has no walk to an end node has one to a dead end. -/
theorem TargetsAreNodes.exists_deadEnd {w : Workflow} (htargets : w.TargetsAreNodes)
    (hacyclic : ¬ w.Cyclic) {n : Node} (hn : n ∈ w.nodes) (hstuck : ¬ w.Finishes n) :
    ∃ m, m ∈ w.deadEnds := by
  obtain ⟨m, hm, hwalk, hlast⟩ := htargets.exists_last hacyclic hn
  have hkind : m.kind ≠ .finish := fun hfinish => hstuck ⟨m, hm, hfinish, hwalk⟩
  exact ⟨m, mem_deadEnds_iff.mpr ⟨hm, hkind, hlast⟩⟩

theorem mem_stranded_of_mem_deadEnds {w : Workflow} (hunique : (w.nodes.map (·.id)).Nodup)
    {n : Node} (hn : n ∈ w.deadEnds) : n ∈ w.stranded := by
  have hnot : ¬ w.Connected n := fun hconnected =>
    not_finishes_of_mem_deadEnds hunique hn hconnected.2
  simp [stranded, (mem_deadEnds_iff.mp hn).1, hnot]

/-! ## What the checks report of them -/

theorem not_cyclic_iff (w : Workflow) :
    ¬ w.Cyclic ↔ ∀ f ∈ w.validate.result, f.code ≠ .cycleDetected := by
  classical
  have hunder : ¬ w.Cyclic ↔ Checks.under w .cycleDetected = [] := by
    rw [Checks.under, Checks.cycles_eq]
    simp
  rw [hunder, List.eq_nil_iff_forall_not_mem]
  simp only [mem_under_iff, not_and, ne_eq]

theorem exists_incompletePath_iff (w : Workflow) :
    (∃ f ∈ w.validate.result, f.code = .incompletePath) ↔ ∃ n, n ∈ w.deadEnds := by
  simp only [← mem_under_iff, mem_under_incompletePath_iff]
  constructor
  · rintro ⟨f, n, hn, -⟩
    exact ⟨n, hn⟩
  · rintro ⟨n, hn⟩
    exact ⟨_, n, hn, rfl⟩

theorem contains_reaching_eq_false_iff (w : Workflow) (n : Node) :
    (w.graph.reaching (w.idsOfKind .finish)).contains n.id = false ↔ ¬ w.Finishes n := by
  rw [← Bool.not_eq_true, contains_reaching_ends_iff, Finishes]

/-- Where there is a start node, the disconnected nodes are named in one finding. -/
theorem reported_disconnectedNodes {w : Workflow} (hstart : ∃ s ∈ w.nodes, s.kind = .start)
    {n : Node} (hn : n ∈ Checks.disconnectedNodes w w.graph) :
    w.reported .disconnectedNodes =
      [.general .disconnectedNodes .warning ("Disconnected nodes detected: " ++
        Text.intercalate ", " ((Checks.disconnectedNodes w w.graph).map Node.displayName))] := by
  have hnames : ¬ ((Checks.disconnectedNodes w w.graph).map Node.displayName).isEmpty = true := by
    rw [List.isEmpty_iff, List.map_eq_nil_iff]
    exact List.ne_nil_of_mem hn
  have hsome : ¬ (w.ofKind .start).isEmpty = true := by
    rw [isEmpty_ofKind_iff, not_not]
    exact hstart
  rw [reported_eq_under, Checks.under, Checks.disconnected]
  rw [if_neg (not_or.mpr ⟨hsome, hnames⟩)]

end Workflow

namespace Document

open Workflow

/-- If all edges lead to nodes and no cycle is reported, some node does not reach an end node
exactly if an incomplete path is reported.  And in any document with a start node, a node
whose path is incomplete is one of those that are named as disconnected. -/
theorem unfinished_iff_incompletePath (d : Document) :
    (d.workflow.TargetsAreNodes →
      (∀ f ∈ d.workflow.validate.result, f.code ≠ .cycleDetected) →
        ((∃ n ∈ d.workflow.nodes, (d.workflow.graph.reaching
            (d.workflow.idsOfKind .finish)).contains n.id = false) ↔
          ∃ f ∈ d.workflow.validate.result, f.code = .incompletePath)) ∧
      ((∃ s ∈ d.workflow.nodes, s.kind = .start) →
        ∀ f ∈ d.workflow.validate.result, f.code = .incompletePath →
          d.workflow.reported .disconnectedNodes =
              [.general .disconnectedNodes .warning ("Disconnected nodes detected: " ++
                Text.intercalate ", " ((Checks.disconnectedNodes d.workflow d.workflow.graph).map
                  Node.displayName))] ∧
            ∃ n ∈ Checks.disconnectedNodes d.workflow d.workflow.graph, f.node = some n.id) := by
  have hunique := d.nodup_nodeIds
  constructor
  · intro htargets hacyclic
    rw [← not_cyclic_iff] at hacyclic
    simp only [contains_reaching_eq_false_iff, exists_incompletePath_iff]
    constructor
    · rintro ⟨n, hn, hstuck⟩
      exact htargets.exists_deadEnd hacyclic hn hstuck
    · rintro ⟨n, hn⟩
      exact ⟨n, (mem_deadEnds_iff.mp hn).1, not_finishes_of_mem_deadEnds hunique hn⟩
  · intro hstart f hf hcode
    obtain ⟨n, hn, rfl⟩ := mem_under_incompletePath_iff.mp (mem_under_iff.mpr ⟨hf, hcode⟩)
    have hnamed : n ∈ Checks.disconnectedNodes d.workflow d.workflow.graph := by
      rw [Checks.disconnectedNodes_eq]
      exact mem_stranded_of_mem_deadEnds hunique hn
    exact ⟨reported_disconnectedNodes hstart hnamed, n, hnamed, rfl⟩

/-- A workflow in which one of two paths stops at a task. -/
def halfway : Json :=
  bareDocument
    [bareNode "s" .start, bareNode "a" .task, bareNode "b" .approval, bareNode "e" .finish]
    [bareEdge "1" "s" "a", bareEdge "2" "s" "b", bareEdge "3" "b" "e"]

theorem unfinished_iff_incompletePath_halfway :
    ∃ d, Document.ofJson halfway = .ok d ∧ d.workflow.TargetsAreNodes ∧
      (∀ f ∈ d.workflow.validate.result, f.code ≠ .cycleDetected) ∧
      (∃ n ∈ d.workflow.nodes, (d.workflow.graph.reaching
        (d.workflow.idsOfKind .finish)).contains n.id = false) ∧
      ∃ f ∈ d.workflow.validate.result, f.code = .incompletePath ∧
        ∃ n ∈ Checks.disconnectedNodes d.workflow d.workflow.graph, f.node = some n.id := by
  have haccepted : (Document.ofJson halfway).toOption.map
      (fun d => (d.workflow.edges.all (fun e => d.workflow.nodes.any fun n => n.id = e.target),
        d.workflow.validate.result.map (·.code), d.workflow.nodes.any (·.kind = .start))) =
        some (true, [.disconnectedNodes, .incompletePath], true) := by
    decide +kernel
  obtain ⟨d, hd, hview⟩ := exists_of_toOption_map haccepted
  obtain ⟨hedges, hrest⟩ := Prod.mk.inj hview
  obtain ⟨hcodes, hstart⟩ := Prod.mk.inj hrest
  have htargets : d.workflow.TargetsAreNodes := by simpa [TargetsAreNodes] using hedges
  have hacyclic : ∀ f ∈ d.workflow.validate.result, f.code ≠ .cycleDetected := by
    intro f hf hcode
    have hin := List.mem_map_of_mem (f := (·.code)) hf
    rw [hcodes, hcode] at hin
    exact absurd hin (by decide)
  have hincomplete : FindingCode.incompletePath ∈ d.workflow.validate.result.map (·.code) := by
    rw [hcodes]
    decide
  obtain ⟨f, hf, hcode⟩ := List.mem_map.mp hincomplete
  obtain ⟨hagree, hnamed⟩ := unfinished_iff_incompletePath d
  have hunfinished := (hagree htargets hacyclic).mpr ⟨f, hf, hcode⟩
  have hstarts : ∃ s ∈ d.workflow.nodes, s.kind = .start := by simpa using hstart
  exact ⟨d, hd, htargets, hacyclic, hunfinished, f, hf, hcode, (hnamed hstarts f hf hcode).2⟩

end Document

end WorkflowEngine
