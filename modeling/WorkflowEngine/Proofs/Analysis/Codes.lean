import WorkflowEngine.Proofs.Analysis.Findings

/-!
# Findings by their codes

Each check reports under a code of its own, and all findings under one code are equally
grave.  So what is reported under a code is what one check finds, and the errors are what
three of the checks find.
-/

namespace WorkflowEngine

/-- How grave the findings under a code are. -/
def FindingCode.severity : FindingCode → Severity
  | .noStartNode | .cycleDetected | .endNodeHasOutgoing => .error
  | .multipleStartNodes | .disconnectedNodes | .incompletePath => .warning

namespace Checks

/-- What the check that reports under a code finds. -/
def under (w : Workflow) : FindingCode → List Finding
  | .noStartNode => startNode w
  | .multipleStartNodes => severalStartNodes w
  | .cycleDetected => cycles w.graph
  | .endNodeHasOutgoing => endNodes w w.graph
  | .disconnectedNodes => disconnected w w.graph
  | .incompletePath => incompletePaths w w.graph

variable {w : Workflow} {c : FindingCode} {f : Finding}

theorem findings_eq_under (w : Workflow) :
    w.findings = under w .noStartNode ++ under w .multipleStartNodes ++ under w .cycleDetected ++
      under w .endNodeHasOutgoing ++ under w .disconnectedNodes ++ under w .incompletePath :=
  rfl

/-- A check reports under its own code, and always as gravely. -/
theorem code_of_mem_under (hf : f ∈ under w c) : f.code = c ∧ f.severity = c.severity := by
  cases c with
  | noStartNode =>
    simp only [under, startNode, List.mem_ite_nil_right, List.mem_singleton] at hf
    rw [hf.2]
    exact ⟨rfl, rfl⟩
  | multipleStartNodes =>
    simp only [under, severalStartNodes, List.mem_ite_nil_left, List.mem_map] at hf
    obtain ⟨-, n, -, rfl⟩ := hf
    exact ⟨rfl, rfl⟩
  | cycleDetected =>
    simp only [under, cycles] at hf
    split at hf
    · rw [List.mem_singleton.mp hf]
      exact ⟨rfl, rfl⟩
    · contradiction
  | endNodeHasOutgoing =>
    obtain ⟨n, -, rfl⟩ := List.mem_map.mp hf
    exact ⟨rfl, rfl⟩
  | disconnectedNodes =>
    simp only [under, disconnected, List.mem_ite_nil_left, List.mem_singleton] at hf
    rw [hf.2]
    exact ⟨rfl, rfl⟩
  | incompletePath =>
    obtain ⟨n, -, rfl⟩ := List.mem_map.mp hf
    exact ⟨rfl, rfl⟩

/-- What the check under a code finds is kept or dropped as a whole by whatever depends on the
code and the severity alone. -/
theorem filter_under (w : Workflow) (c : FindingCode) (keep : Bool) {p : Finding → Bool}
    (hp : ∀ f : Finding, f.code = c → f.severity = c.severity → p f = keep) :
    (under w c).filter p = if keep = true then under w c else [] := by
  have hall : ∀ f ∈ under w c, p f = keep := fun f hf =>
    hp f (code_of_mem_under hf).1 (code_of_mem_under hf).2
  cases keep with
  | true =>
    rw [if_pos rfl, List.filter_eq_self]
    exact hall
  | false =>
    rw [if_neg Bool.false_ne_true, List.filter_eq_nil_iff]
    intro f hf
    rw [hall f hf]
    exact Bool.false_ne_true

theorem filter_code_under (w : Workflow) (c c' : FindingCode) :
    (under w c').filter (·.code = c) = if c' = c then under w c' else [] := by
  rw [filter_under w c' (c' = c) fun f hf _ => by rw [hf]]
  simp only [decide_eq_true_eq]

theorem filter_code_ne_under (w : Workflow) (c c' : FindingCode) :
    (under w c').filter (·.code ≠ c) = if c' = c then [] else under w c' := by
  rw [filter_under w c' (c' ≠ c) fun f hf _ => by rw [hf]]
  simp only [decide_eq_true_eq, ite_not]

theorem filter_isBlocking_under (w : Workflow) (c : FindingCode) :
    (under w c).filter (·.isBlocking) = if c.severity = .error then under w c else [] := by
  rw [filter_under w c (c.severity = .error) fun f _ hf => by
    rw [Finding.isBlocking, hf]]
  simp only [decide_eq_true_eq]

end Checks

namespace Workflow

theorem result_validate (w : Workflow) : w.validate.result = w.findings := rfl

/-- What is reported about a workflow under one code, in order. -/
def reported (w : Workflow) (c : FindingCode) : List Finding :=
  w.validate.result.filter (·.code = c)

/-- Under one code is reported what one check finds. -/
theorem reported_eq_under (w : Workflow) (c : FindingCode) : w.reported c = Checks.under w c := by
  rw [reported, result_validate, Checks.findings_eq_under]
  simp only [List.filter_append, Checks.filter_code_under]
  cases c <;> simp

theorem mem_under_iff {w : Workflow} {c : FindingCode} {f : Finding} :
    f ∈ Checks.under w c ↔ f ∈ w.validate.result ∧ f.code = c := by
  rw [← reported_eq_under, reported]
  simp

/-- The errors are what three of the checks find, in this order. -/
theorem filter_isBlocking_validate (w : Workflow) :
    w.validate.result.filter (·.isBlocking) =
      Checks.under w .noStartNode ++ Checks.under w .cycleDetected ++
        Checks.under w .endNodeHasOutgoing := by
  rw [result_validate, Checks.findings_eq_under]
  simp [List.filter_append, Checks.filter_isBlocking_under, FindingCode.severity]

/-- What is picked from the findings of two workflows is the same, up to its order, if it is the
same for each check. -/
theorem filter_validate_perm {w w' : Workflow} {p : Finding → Bool}
    (hp : ∀ c, ((Checks.under w c).filter p).Perm ((Checks.under w' c).filter p)) :
    (w.validate.result.filter p).Perm (w'.validate.result.filter p) := by
  simp only [result_validate, Checks.findings_eq_under, List.filter_append]
  exact (((((hp _).append (hp _)).append (hp _)).append (hp _)).append (hp _)).append (hp _)

end Workflow

end WorkflowEngine
