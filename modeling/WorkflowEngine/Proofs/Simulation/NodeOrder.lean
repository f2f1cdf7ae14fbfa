import WorkflowEngine.Proofs.Analysis.Codes
import WorkflowEngine.Proofs.Simulation.Reports

/-!
# The order of the nodes

The order of the nodes decides where the search for cycles sets out, from which seeds the closures
grow and in which order findings are listed.  What the checks find is nevertheless a matter of
walks, and walks know no order of nodes.  So a workflow whose nodes are put in another order has
the same findings, each as often as before, and is refused or simulated as before.  Only the
disconnected nodes, which one finding names together, are named in their new order.
-/

namespace WorkflowEngine

namespace Workflow

/-- Two workflows have the same edges, and the same nodes up to their order. -/
structure Rearranged (w w' : Workflow) : Prop where
  nodes : w.nodes.Perm w'.nodes
  edges : w.edges = w'.edges

namespace Rearranged

variable {w w' : Workflow} (h : w.Rearranged w')
include h

/-! ## Walks -/

theorem joins_eq : w.Joins = w'.Joins := by
  funext a b
  rw [Joins, Joins, h.edges]

theorem leaves_iff (id : NodeId) : w.Leaves id ↔ w'.Leaves id := by
  rw [Leaves, Leaves, h.edges]

theorem cyclic_iff : w.Cyclic ↔ w'.Cyclic := by
  rw [Cyclic, Cyclic, h.joins_eq]

theorem exists_node_iff (p : Node → Prop) : (∃ n ∈ w.nodes, p n) ↔ ∃ n ∈ w'.nodes, p n := by
  simp only [h.nodes.mem_iff]

theorem connected_iff (n : Node) : w.Connected n ↔ w'.Connected n := by
  rw [Connected, Connected, h.exists_node_iff, h.exists_node_iff, Leads, Leads, h.joins_eq]

/-! ## Nodes that are spoken of -/

/-- By one property the same nodes are picked. -/
theorem filter_perm {p q : Node → Bool} (hpq : ∀ n, p n = true ↔ q n = true) :
    (w.nodes.filter p).Perm (w'.nodes.filter q) := by
  have hsame : p = q := funext fun n => Bool.eq_iff_iff.mpr (hpq n)
  rw [hsame]
  exact h.nodes.filter q

theorem starts_perm : w.starts.Perm w'.starts :=
  h.filter_perm fun _ => Iff.rfl

theorem leftEnds_perm : w.leftEnds.Perm w'.leftEnds := by
  apply h.filter_perm
  intro n
  simp only [decide_eq_true_eq, h.leaves_iff]

theorem deadEnds_perm : w.deadEnds.Perm w'.deadEnds := by
  apply h.filter_perm
  intro n
  simp only [decide_eq_true_eq, h.leaves_iff]

/-! ## Findings -/

open Checks

/-- Each check but the one for disconnected nodes finds the same. -/
theorem under_perm {c : FindingCode} (hc : c ≠ .disconnectedNodes) :
    (under w c).Perm (under w' c) := by
  classical
  cases c with
  | noStartNode =>
    simp only [under, startNode_eq, h.exists_node_iff]
    exact .refl _
  | multipleStartNodes =>
    simp only [under, severalStartNodes_eq, h.starts_perm.length_eq]
    split
    · exact h.starts_perm.map _
    · exact .refl _
  | cycleDetected =>
    simp only [under, cycles_eq, h.cyclic_iff]
    exact .refl _
  | endNodeHasOutgoing =>
    simp only [under, endNodes_eq]
    exact h.leftEnds_perm.map _
  | disconnectedNodes => exact absurd rfl hc
  | incompletePath =>
    simp only [under, incompletePaths_eq]
    exact h.deadEnds_perm.map _

theorem others_perm :
    (w.validate.result.filter (·.code ≠ .disconnectedNodes)).Perm
      (w'.validate.result.filter (·.code ≠ .disconnectedNodes)) := by
  apply filter_validate_perm
  intro c
  rw [filter_code_ne_under, filter_code_ne_under]
  split
  · exact .refl _
  · exact h.under_perm ‹_›

/-- The errors are the same, because disconnected nodes are none. -/
theorem errors_perm :
    (w.validate.result.filter (·.isBlocking)).Perm
      (w'.validate.result.filter (·.isBlocking)) := by
  apply filter_validate_perm
  intro c
  rw [filter_isBlocking_under, filter_isBlocking_under]
  split
  · apply h.under_perm
    rintro rfl
    contradiction
  · exact .refl _

end Rearranged

/-! ## Disconnected nodes -/

/-- The nodes that are reported to be disconnected.  Without a start node none is. -/
def apart (w : Workflow) : List Node :=
  if (w.ofKind .start).isEmpty then [] else Checks.disconnectedNodes w w.graph

end Workflow

/-- What is said of some disconnected nodes, which are named in their order. -/
def Checks.disconnection : List Node → List Finding
  | [] => []
  | n :: ns =>
    [.general .disconnectedNodes .warning
      ("Disconnected nodes detected: " ++ Text.intercalate ", " ((n :: ns).map Node.displayName))]

namespace Workflow

open Checks

theorem disconnection_eq_nil_iff (ns : List Node) : disconnection ns = [] ↔ ns = [] := by
  cases ns with
  | nil => exact iff_of_true rfl rfl
  | cons n ns => exact iff_of_false (List.cons_ne_nil _ _) (List.cons_ne_nil _ _)

theorem reported_eq_disconnection (w : Workflow) :
    w.reported .disconnectedNodes = disconnection w.apart := by
  rw [reported_eq_under, under, disconnected, apart]
  by_cases hstart : (w.ofKind .start).isEmpty = true
  · rw [if_pos (Or.inl hstart), if_pos hstart, disconnection]
  · rw [if_neg hstart]
    cases disconnectedNodes w w.graph with
    | nil => exact if_pos (Or.inr rfl)
    | cons n ns => exact if_neg (not_or.mpr ⟨hstart, Bool.false_ne_true⟩)

open Classical in
theorem apart_eq_filter (w : Workflow) :
    w.apart = w.nodes.filter fun n => (∃ s ∈ w.nodes, s.kind = .start) ∧ ¬ w.Connected n := by
  rw [apart, disconnectedNodes_eq, stranded]
  by_cases hstart : ∃ s ∈ w.nodes, s.kind = .start
  · rw [if_neg fun hempty => (isEmpty_ofKind_iff w .start).mp hempty hstart]
    simp only [hstart, true_and]
  · rw [if_pos ((isEmpty_ofKind_iff w .start).mpr hstart)]
    simp [hstart]

/-- In another order of the nodes the same ones are named, in that order. -/
theorem Rearranged.apart_eq {w w' : Workflow} (h : w.Rearranged w') :
    w'.apart = w'.nodes.filter (· ∈ w.apart) := by
  classical
  rw [w'.apart_eq_filter]
  apply List.filter_congr
  intro n hn
  rw [decide_eq_decide, w.apart_eq_filter, List.mem_filter, decide_eq_true_eq,
    h.exists_node_iff, h.connected_iff, and_iff_right (h.nodes.mem_iff.mpr hn)]

theorem Rearranged.apart_perm {w w' : Workflow} (h : w.Rearranged w') :
    w.apart.Perm w'.apart := by
  classical
  rw [w.apart_eq_filter, w'.apart_eq_filter]
  apply h.filter_perm
  intro n
  simp only [decide_eq_true_eq, h.exists_node_iff, h.connected_iff]

/-! ## The verdict -/

/-- Of a workflow whose nodes are put in another order everything but the disconnected nodes is
reported as before, each finding as often as before.  The disconnected nodes are reported in both
orders or in neither, the same ones, named in the order of the nodes.  So the report is valid in
both orders or in neither, and both or neither are simulated. -/
theorem validate_of_rearranged {w w' : Workflow} (h : w.Rearranged w') :
    (w.validate.result.filter (·.code ≠ .disconnectedNodes)).Perm
        (w'.validate.result.filter (·.code ≠ .disconnectedNodes)) ∧
      w.reported .disconnectedNodes = disconnection w.apart ∧
      w'.reported .disconnectedNodes = disconnection (w'.nodes.filter (· ∈ w.apart)) ∧
      w.apart.Perm (w'.nodes.filter (· ∈ w.apart)) ∧
      (w.reported .disconnectedNodes = [] ↔ w'.reported .disconnectedNodes = []) ∧
      w.report.result.isValid = w'.report.result.isValid ∧
      w.simulate.result.success = w'.simulate.result.success := by
  have hempty : w.reported .disconnectedNodes = [] ↔ w'.reported .disconnectedNodes = [] := by
    simp only [reported_eq_disconnection, disconnection_eq_nil_iff]
    rw [← List.length_eq_zero_iff, ← List.length_eq_zero_iff, h.apart_perm.length_eq]
  have hvalid : w.report.result.isValid = w'.report.result.isValid :=
    h.errors_perm.isEmpty_eq
  rw [← h.apart_eq, success_simulate, success_simulate]
  exact ⟨h.others_perm, w.reported_eq_disconnection, w'.reported_eq_disconnection, h.apart_perm,
    hempty, hvalid, hvalid⟩

/-- A workflow in which two tasks stand apart from the way to the end. -/
def scattered : Workflow where
  nodes := [⟨"s", .start, ""⟩, ⟨"a", .task, "Ask"⟩, ⟨"b", .approval, ""⟩, ⟨"c", .task, ""⟩,
    ⟨"e", .finish, ""⟩]
  edges := [⟨"s", "b"⟩, ⟨"b", "e"⟩, ⟨"a", "c"⟩]

/-- The same workflow with its nodes in the opposite order. -/
def scatteredBackwards : Workflow where
  nodes := scattered.nodes.reverse
  edges := scattered.edges

theorem validate_of_rearranged_scattered :
    scattered.Rearranged scatteredBackwards ∧
      (scattered.validate.result.filter (·.code ≠ .disconnectedNodes)).Perm
        (scatteredBackwards.validate.result.filter (·.code ≠ .disconnectedNodes)) ∧
      scattered.reported .disconnectedNodes =
        [.general .disconnectedNodes .warning "Disconnected nodes detected: Ask, c"] ∧
      scatteredBackwards.reported .disconnectedNodes =
        [.general .disconnectedNodes .warning "Disconnected nodes detected: c, Ask"] ∧
      scattered.report.result.isValid = true ∧
      scatteredBackwards.report.result.isValid = true ∧
      scattered.simulate.result.success = true ∧
      scatteredBackwards.simulate.result.success = true := by
  have h : scattered.Rearranged scatteredBackwards := ⟨scattered.nodes.reverse_perm.symm, rfl⟩
  obtain ⟨hothers, hforwards, hbackwards, -, -, hvalid, hsuccess⟩ := validate_of_rearranged h
  have hapart : scattered.apart = [⟨"a", .task, "Ask"⟩, ⟨"c", .task, ""⟩] := by decide +kernel
  have hvalidForwards : scattered.report.result.isValid = true := by decide +kernel
  have hsuccessForwards : scattered.simulate.result.success = true := by decide +kernel
  rw [hapart] at hforwards hbackwards
  exact ⟨h, hothers, hforwards, hbackwards, hvalidForwards, hvalid.symm.trans hvalidForwards,
    hsuccessForwards, hsuccess.symm.trans hsuccessForwards⟩

end Workflow

end WorkflowEngine
