import Mathlib.Logic.Relation
import WorkflowEngine.Graph.Traversal
import WorkflowEngine.Proofs.Graph.Worklists

/-!
# Reachability

The closure of some seeds is exactly what walks along edges lead to.  An invariant
of one step says that nothing met so far has been forgotten and that everything in
sight is reachable; once the queue is empty the reached ids are closed under edges,
and the fuel is counted so that the queue does become empty.
-/

namespace WorkflowEngine.Graph

/-- Some edge leads from one id to another. -/
def Joins (edges : List (NodeId × NodeId)) (a b : NodeId) : Prop := (a, b) ∈ edges

/-- A walk along zero or more edges leads from one id to another. -/
abbrev Leads (edges : List (NodeId × NodeId)) : NodeId → NodeId → Prop :=
  Relation.ReflTransGen (Joins edges)

/-- Walks along edges turned round are walks the other way. -/
theorem leads_swap {edges : List (NodeId × NodeId)} {a b : NodeId} :
    Leads (edges.map Prod.swap) a b ↔ Leads edges b a := by
  have hjoins : Joins (edges.map Prod.swap) = Function.swap (Joins edges) := by
    funext a b
    simp [Joins, Function.swap]
  rw [Leads, hjoins, Relation.reflTransGen_swap]

namespace Spread

/-- An id that has been met: reached, or waiting in the queue. -/
def Met (s : Spread) (id : NodeId) : Prop := s.reached.contains id = true ∨ id ∈ s.queue

/-- What holds at every step of a closure along edges. -/
structure Sound (edges : List (NodeId × NodeId)) (seeds : List NodeId) (s : Spread) : Prop where
  seeds_met : ∀ id ∈ seeds, s.Met id
  targets_met : ∀ a b, s.reached.contains a = true → Joins edges a b → s.Met b
  met_reachable : ∀ id, s.Met id → ∃ seed ∈ seeds, Leads edges seed id

/-- How many steps are left at most. -/
def weight (edges : List (NodeId × NodeId)) (s : Spread) : Nat :=
  s.queue.length + openEdges edges s.reached

theorem sound_start (edges : List (NodeId × NodeId)) (seeds : List NodeId) :
    Sound edges seeds ⟨∅, seeds⟩ where
  seeds_met id hid := Or.inr hid
  targets_met a b ha := by simp at ha
  met_reachable id hid := by
    rcases hid with hreached | hqueued
    · simp at hreached
    · exact ⟨id, hqueued, Relation.ReflTransGen.refl⟩

section Step

variable {neighbours : NodeId → List NodeId} {s : Spread} {node : NodeId} {rest : List NodeId}

/-- A node that was reached before is dropped from the queue. -/
theorem step_of_reached (hqueue : s.queue = node :: rest)
    (hnode : s.reached.contains node = true) :
    s.step neighbours = { s with queue := rest } := by
  simp [step, hqueue, hnode]

/-- A new node is reached, and its new neighbours join the queue. -/
theorem step_of_new (hqueue : s.queue = node :: rest)
    (hnode : s.reached.contains node = false) :
    s.step neighbours = ⟨s.reached.insert node,
      rest ++ (neighbours node).filter fun next => !(s.reached.insert node).contains next⟩ := by
  simp [step, hqueue, hnode]

/-- Whatever has been met before a step, and every neighbour of a node that the step
reaches, has been met after it. -/
theorem met_step_iff_of_new (hqueue : s.queue = node :: rest)
    (hnode : s.reached.contains node = false) (id : NodeId) :
    (s.step neighbours).Met id ↔ s.Met id ∨ id ∈ neighbours node := by
  rw [step_of_new hqueue hnode]
  simp only [Met, hqueue, IdSet.contains_insert, Bool.or_eq_true, decide_eq_true_eq,
    List.mem_append, List.mem_cons, List.mem_filter, Bool.not_eq_true', Bool.or_eq_false_iff,
    decide_eq_false_iff_not]
  by_cases hreached : s.reached.contains id = true
  · simp [hreached]
  · by_cases hid : node = id
    · simp [hid]
    · have hid' : ¬ id = node := fun h => hid h.symm
      simp [hreached, hid, hid']

theorem met_step_iff_of_reached (hqueue : s.queue = node :: rest)
    (hnode : s.reached.contains node = true) (id : NodeId) :
    (s.step neighbours).Met id ↔ s.Met id := by
  rw [step_of_reached hqueue hnode]
  simp only [Met, hqueue, List.mem_cons]
  constructor
  · rintro (hreached | hin)
    · exact Or.inl hreached
    · exact Or.inr (Or.inr hin)
  · rintro (hreached | rfl | hin)
    · exact Or.inl hreached
    · exact Or.inl hnode
    · exact Or.inr hin

end Step

variable {edges : List (NodeId × NodeId)} {seeds : List NodeId} {s : Spread}

theorem Sound.step (hs : Sound edges seeds s) :
    Sound edges seeds (s.step (targetsOf edges)) := by
  cases hqueue : s.queue with
  | nil =>
    have hsame : s.step (targetsOf edges) = s := by simp [Spread.step, hqueue]
    rwa [hsame]
  | cons node rest =>
    cases hnode : s.reached.contains node with
    | true =>
      have hmet : ∀ id, (s.step (targetsOf edges)).Met id ↔ s.Met id :=
        met_step_iff_of_reached hqueue hnode
      constructor
      · intro id hid
        exact (hmet id).mpr (hs.seeds_met id hid)
      · intro a b ha hab
        rw [step_of_reached hqueue hnode] at ha
        exact (hmet b).mpr (hs.targets_met a b ha hab)
      · intro id hid
        exact hs.met_reachable id ((hmet id).mp hid)
    | false =>
      have hmet : ∀ id, (s.step (targetsOf edges)).Met id ↔
          s.Met id ∨ id ∈ targetsOf edges node :=
        met_step_iff_of_new hqueue hnode
      have hnodeMet : s.Met node := Or.inr (by simp [hqueue])
      constructor
      · intro id hid
        exact (hmet id).mpr (Or.inl (hs.seeds_met id hid))
      · intro a b ha hab
        rw [step_of_new hqueue hnode] at ha
        simp only [IdSet.contains_insert, Bool.or_eq_true, decide_eq_true_eq] at ha
        rcases ha with rfl | ha
        · exact (hmet b).mpr (Or.inr (mem_targetsOf.mpr hab))
        · exact (hmet b).mpr (Or.inl (hs.targets_met a b ha hab))
      · intro id hid
        rcases (hmet id).mp hid with hold | hnext
        · exact hs.met_reachable id hold
        · obtain ⟨seed, hseed, hwalk⟩ := hs.met_reachable node hnodeMet
          exact ⟨seed, hseed, hwalk.tail (mem_targetsOf.mp hnext)⟩

theorem worklist (neighbours : NodeId → List NodeId) :
    Worklist (Spread.step neighbours) (·.reached) (·.queue) neighbours where
  idle s hqueue := by simp [Spread.step, hqueue]
  skips s node rest hqueue hnode := by simp [step_of_reached hqueue hnode]
  enters s node rest hqueue hnode := by
    have hfresh := List.length_filter_le
      (fun next => !(s.reached.insert node).contains next) (neighbours node)
    rw [step_of_new hqueue hnode, List.length_append]
    exact ⟨rfl, by omega⟩

/-- A run is made of steps alone: a step changes nothing once the queue is empty. -/
theorem run_eq_iterate (neighbours : NodeId → List NodeId) (fuel : Nat) (s : Spread) :
    run neighbours fuel s = (Spread.step neighbours)^[fuel] s := by
  induction fuel generalizing s with
  | zero => rfl
  | succ fuel ih =>
    rw [Spread.run, Function.iterate_succ_apply]
    by_cases hempty : s.queue = []
    · have hsame : s.step neighbours = s := by simp [step, hempty]
      rw [if_pos (by simpa using hempty), hsame, Function.iterate_fixed hsame]
    · rw [if_neg (by simpa using hempty), ih]

theorem Sound.run (hs : Sound edges seeds s) (fuel : Nat) :
    Sound edges seeds (run (targetsOf edges) fuel s) := by
  rw [run_eq_iterate]
  exact Function.Iterate.rec (Sound edges seeds) hs (fun _ hsound => hsound.step) fuel

/-- A run with enough fuel ends with an empty queue. -/
theorem queue_run_eq_nil {fuel : Nat} (hfuel : s.weight edges ≤ fuel) :
    (run (targetsOf edges) fuel s).queue = [] := by
  rw [run_eq_iterate]
  exact (worklist (targetsOf edges)).pending_iterate_eq_nil_of_openEdges hfuel

/-- With an empty queue a closure has reached exactly what its seeds lead to. -/
theorem Sound.contains_iff (hs : Sound edges seeds s) (hqueue : s.queue = []) (id : NodeId) :
    s.reached.contains id = true ↔ ∃ seed ∈ seeds, Leads edges seed id := by
  have hmet : ∀ other, s.Met other ↔ s.reached.contains other = true := by
    intro other
    simp [Met, hqueue]
  constructor
  · intro hin
    exact hs.met_reachable id ((hmet id).mpr hin)
  · rintro ⟨seed, hseed, hwalk⟩
    -- What is reached is closed under edges, so the walk never leaves it.
    induction hwalk with
    | refl => exact (hmet seed).mp (hs.seeds_met seed hseed)
    | tail _ hedge ih => exact (hmet _).mp (hs.targets_met _ _ ih hedge)

end Spread

/-- A closure along edges with enough fuel holds exactly what its seeds lead to. -/
theorem contains_closure_iff (edges : List (NodeId × NodeId)) (seeds : List NodeId) {fuel : Nat}
    (hfuel : seeds.length + edges.length ≤ fuel) (id : NodeId) :
    (closure (targetsOf edges) fuel seeds).contains id = true ↔
      ∃ seed ∈ seeds, Leads edges seed id := by
  have hweight : Spread.weight edges ⟨∅, seeds⟩ ≤ fuel := by
    simpa [Spread.weight, openEdges_empty] using hfuel
  exact ((Spread.sound_start edges seeds).run fuel).contains_iff
    (Spread.queue_run_eq_nil hweight) id

section Stored

variable {g : Graph} {edges : List (NodeId × NodeId)}

/-- Forward reachability follows walks from the sources. -/
theorem Stores.contains_reachableFrom (hg : g.Stores edges) (sources : List NodeId)
    (id : NodeId) :
    (g.reachableFrom sources).contains id = true ↔ ∃ a ∈ sources, Leads edges a id := by
  have hsuccessors : g.successors = targetsOf edges := funext hg.successors
  rw [reachableFrom, hsuccessors, hg.edgeCount]
  exact contains_closure_iff edges sources (Nat.le_refl _) id

/-- Backward reachability follows walks to the targets. -/
theorem Stores.contains_reaching (hg : g.Stores edges) (targets : List NodeId) (id : NodeId) :
    (g.reaching targets).contains id = true ↔ ∃ b ∈ targets, Leads edges id b := by
  have hpredecessors : g.predecessors = targetsOf (edges.map Prod.swap) := by
    funext other
    rw [hg.predecessors, sourcesOf_eq_targetsOf_swap]
  rw [reaching, hpredecessors, hg.edgeCount]
  rw [contains_closure_iff (edges.map Prod.swap) targets (by simp) id]
  simp only [leads_swap]

end Stored

end WorkflowEngine.Graph
