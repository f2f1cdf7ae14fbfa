import WorkflowEngine.Proofs.Analysis.Codes

/-!
# What more edges change

A workflow that gets more edges, to nodes or to ids that are no nodes, keeps all the walks
it had.  So its errors stay, and the nodes that dangle or stand apart can only become fewer.
Two workflows that get their edges from each other are checked alike, whatever the order of
their edges is.
-/

namespace WorkflowEngine.Workflow

/-- A workflow has the nodes of another one and all of its edges, and perhaps more edges. -/
structure Extends (w w' : Workflow) : Prop where
  nodes : w'.nodes = w.nodes
  edges : w.edges ⊆ w'.edges

namespace Extends

variable {w w' : Workflow} (h : w.Extends w')
include h

/-! ## Walks -/

theorem joins {a b : NodeId} (hab : w.Joins a b) : w'.Joins a b := by
  obtain ⟨e, he, hends⟩ := hab
  exact ⟨e, h.edges he, hends⟩

theorem leaves {id : NodeId} (hid : w.Leaves id) : w'.Leaves id := by
  obtain ⟨e, he, hsource⟩ := hid
  exact ⟨e, h.edges he, hsource⟩

theorem leads {a b : NodeId} (hab : w.Leads a b) : w'.Leads a b :=
  Relation.ReflTransGen.mono (fun _ _ => h.joins) a b hab

theorem cyclic (hcyclic : w.Cyclic) : w'.Cyclic := by
  obtain ⟨id, hwalk⟩ := hcyclic
  exact ⟨id, Relation.TransGen.mono (fun _ _ => h.joins) id id hwalk⟩

theorem connected {n : Node} (hn : w.Connected n) : w'.Connected n := by
  obtain ⟨⟨s, hs, hstart, hfrom⟩, t, ht, hfinish, hto⟩ := hn
  rw [← h.nodes] at hs ht
  exact ⟨⟨s, hs, hstart, h.leads hfrom⟩, t, ht, hfinish, h.leads hto⟩

/-! ## Nodes that are spoken of -/

theorem ofKind_eq (k : NodeKind) : w'.ofKind k = w.ofKind k := by
  rw [ofKind, ofKind, h.nodes]

theorem leftEnds_sublist : w.leftEnds.Sublist w'.leftEnds := by
  rw [leftEnds, leftEnds, h.nodes]
  apply List.monotone_filter_right
  intro n hn
  simp only [decide_eq_true_eq] at hn ⊢
  exact ⟨hn.1, h.leaves hn.2⟩

theorem stranded_sublist : w'.stranded.Sublist w.stranded := by
  rw [stranded, stranded, h.nodes]
  apply List.monotone_filter_right
  intro n hn
  simp only [decide_eq_true_eq] at hn ⊢
  exact fun hconnected => hn (h.connected hconnected)

theorem deadEnds_sublist : w'.deadEnds.Sublist w.deadEnds := by
  rw [deadEnds, deadEnds, h.nodes]
  apply List.monotone_filter_right
  intro n hn
  simp only [decide_eq_true_eq] at hn ⊢
  exact ⟨hn.1, fun hleaves => hn.2 (h.leaves hleaves)⟩

/-! ## Findings -/

open Checks

theorem under_noStartNode : under w' .noStartNode = under w .noStartNode := by
  rw [under, under, startNode, startNode, h.ofKind_eq]

theorem under_multipleStartNodes :
    under w' .multipleStartNodes = under w .multipleStartNodes := by
  rw [under, under, severalStartNodes, severalStartNodes, h.ofKind_eq]

theorem under_cycleDetected :
    (under w .cycleDetected).Sublist (under w' .cycleDetected) := by
  classical
  simp only [under, cycles_eq]
  by_cases hcyclic : w.Cyclic
  · rw [if_pos hcyclic, if_pos (h.cyclic hcyclic)]
  · rw [if_neg hcyclic]
    exact List.nil_sublist _

theorem under_endNodeHasOutgoing :
    (under w .endNodeHasOutgoing).Sublist (under w' .endNodeHasOutgoing) := by
  simp only [under, endNodes_eq]
  exact h.leftEnds_sublist.map _

theorem under_incompletePath :
    (under w' .incompletePath).Sublist (under w .incompletePath) := by
  simp only [under, incompletePaths_eq]
  exact h.deadEnds_sublist.map _

theorem disconnectedNodes_sublist :
    (disconnectedNodes w' w'.graph).Sublist (disconnectedNodes w w.graph) := by
  rw [disconnectedNodes_eq, disconnectedNodes_eq]
  exact h.stranded_sublist

/-- Workflows that have their edges from each other are told the same by each check. -/
theorem under_eq (h' : w'.Extends w) (c : FindingCode) : under w' c = under w c := by
  cases c with
  | noStartNode => exact h.under_noStartNode
  | multipleStartNodes => exact h.under_multipleStartNodes
  | cycleDetected => exact h'.under_cycleDetected.antisymm h.under_cycleDetected
  | endNodeHasOutgoing => exact h'.under_endNodeHasOutgoing.antisymm h.under_endNodeHasOutgoing
  | incompletePath => exact h.under_incompletePath.antisymm h'.under_incompletePath
  | disconnectedNodes =>
    have hsame := h.disconnectedNodes_sublist.antisymm h'.disconnectedNodes_sublist
    rw [under, under, disconnected, disconnected, hsame, h.ofKind_eq]

theorem validate_eq (h' : w'.Extends w) : w'.validate.result = w.validate.result := by
  rw [result_validate, result_validate, findings_eq_under, findings_eq_under]
  simp only [h.under_eq h']

/-- More edges take no error away. -/
theorem errors_sublist :
    (w.validate.result.filter (·.isBlocking)).Sublist
      (w'.validate.result.filter (·.isBlocking)) := by
  rw [filter_isBlocking_validate, filter_isBlocking_validate, h.under_noStartNode]
  exact ((List.Sublist.refl _).append h.under_cycleDetected).append h.under_endNodeHasOutgoing

end Extends

/-- More edges take no error away, leave what is said about several start nodes as it is, and
make no further node a dead end or disconnected.  So a workflow is left without errors if it
loses edges. -/
theorem validate_of_extends {w w' : Workflow} (h : w.Extends w') :
    (w.validate.result.filter (·.isBlocking)).Sublist
        (w'.validate.result.filter (·.isBlocking)) ∧
      w'.reported .multipleStartNodes = w.reported .multipleStartNodes ∧
      (w'.reported .incompletePath).Sublist (w.reported .incompletePath) ∧
      (Checks.disconnectedNodes w' w'.graph).Sublist (Checks.disconnectedNodes w w.graph) ∧
      ((∀ f ∈ w'.validate.result, f.severity ≠ .error) →
        ∀ f ∈ w.validate.result, f.severity ≠ .error) := by
  refine ⟨h.errors_sublist, ?_, ?_, ?_, ?_⟩
  · rw [reported_eq_under, reported_eq_under, h.under_multipleStartNodes]
  · rw [reported_eq_under, reported_eq_under]
    exact h.under_incompletePath
  · exact h.disconnectedNodes_sublist
  · intro hclean f hf herror
    have hblocking : f ∈ w.validate.result.filter (·.isBlocking) := by
      simp [hf, Finding.isBlocking, herror]
    have hkept := List.mem_of_mem_filter (h.errors_sublist.subset hblocking)
    exact hclean f hkept herror

/-- A workflow whose end node has an edge to a task that leads nowhere. -/
def overrun : Workflow where
  nodes := [⟨"s", .start, ""⟩, ⟨"e", .finish, ""⟩, ⟨"t", .task, ""⟩, ⟨"u", .task, ""⟩]
  edges := [⟨"s", "e"⟩, ⟨"e", "t"⟩]

/-- The same workflow with edges by way of an id that is no node, which close a cycle. -/
def overrunLoop : Workflow where
  nodes := overrun.nodes
  edges := [⟨"t", "ghost"⟩] ++ overrun.edges ++ [⟨"ghost", "s"⟩]

theorem validate_of_extends_overrun :
    overrun.Extends overrunLoop ∧
      (overrun.validate.result.filter (·.isBlocking)).Sublist
        (overrunLoop.validate.result.filter (·.isBlocking)) ∧
      (overrun.validate.result.filter (·.isBlocking)).length = 1 ∧
      (overrunLoop.validate.result.filter (·.isBlocking)).length = 2 ∧
      (overrunLoop.reported .incompletePath).Sublist (overrun.reported .incompletePath) ∧
      (overrunLoop.reported .incompletePath).length = 1 ∧
      (overrun.reported .incompletePath).length = 2 := by
  have hextends : overrun.Extends overrunLoop := ⟨rfl, by decide⟩
  obtain ⟨herrors, -, hincomplete, -, -⟩ := validate_of_extends hextends
  exact ⟨hextends, herrors, by decide +kernel, by decide +kernel, hincomplete,
    by decide +kernel, by decide +kernel⟩

end WorkflowEngine.Workflow
