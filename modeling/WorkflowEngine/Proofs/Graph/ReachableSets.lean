import WorkflowEngine.Proofs.Graph.RecursiveWalk

/-!
# What the traversals reach

The closure along the edges, the closure against them and preorder keep their pending ids in
different orders, and the second looks at a family of lists that is stored apart from that of
the others.  All three are described by the walks along the edges that were added, and so they
agree with each other: one closure answers the question of the other from the opposite end, and
preorder visits what the first one reaches.
-/

namespace WorkflowEngine.Graph

/-! ## Preorder -/

/-- In a scope that no walk leaves, the recursion goes on along every edge. -/
theorem goesOn_reachScope (edges : List (NodeId × NodeId)) (root : NodeId) :
    GoesOn (targetsOf edges) (reachScope edges root) = Joins edges := by
  funext a b
  rw [GoesOn, mem_targetsOf, eq_iff_iff]
  exact ⟨And.left, fun h => ⟨h, target_mem_reachScope h root⟩⟩

section Stored

variable {g : Graph} {edges : List (NodeId × NodeId)}

theorem Stores.nodup_preorder (hg : g.Stores edges) (root : NodeId) : (g.preorder root).Nodup := by
  rw [hg.preorder_eq root]
  exact nodup_emit List.nodup_nil

/-- Preorder visits exactly what its root leads to. -/
theorem Stores.mem_preorder_iff (hg : g.Stores edges) (root id : NodeId) :
    id ∈ g.preorder root ↔ Leads edges root id := by
  rw [hg.preorder_eq root, mem_recursiveWalk_iff (root_mem_reachScope edges root),
    goesOn_reachScope]

/-! ## Closures of one seed -/

theorem Stores.contains_reachableFrom_singleton (hg : g.Stores edges) (source id : NodeId) :
    (g.reachableFrom [source]).contains id = true ↔ Leads edges source id := by
  simp [hg.contains_reachableFrom]

theorem Stores.contains_reaching_singleton (hg : g.Stores edges) (target id : NodeId) :
    (g.reaching [target]).contains id = true ↔ Leads edges id target := by
  simp [hg.contains_reaching]

end Stored

/-! ## Graphs built by additions -/

/-- Whatever was added to a graph, and whatever the seeds are, forward reachability holds exactly
the ids to which a walk of zero or more edges leads from a seed, and backward reachability
exactly those from which one leads to a seed.  So an id is reached from another one exactly if
that one reaches it.  From every root, preorder visits the ids that are reached from the root
alone, each of them once. -/
theorem reachable_build (additions : List Addition) :
    (∀ seeds id, ((build additions).reachableFrom seeds).contains id = true ↔
        ∃ seed ∈ seeds, Leads (edgesAmong additions) seed id) ∧
      (∀ seeds id, ((build additions).reaching seeds).contains id = true ↔
        ∃ seed ∈ seeds, Leads (edgesAmong additions) id seed) ∧
      (∀ s t, ((build additions).reachableFrom [s]).contains t = true ↔
        ((build additions).reaching [t]).contains s = true) ∧
      ∀ root, ((build additions).preorder root).Nodup ∧
        ∀ id, id ∈ (build additions).preorder root ↔
          ((build additions).reachableFrom [root]).contains id = true := by
  have hstores := stores_build additions
  refine ⟨hstores.contains_reachableFrom, hstores.contains_reaching, ?_, ?_⟩
  · intro s t
    rw [hstores.contains_reachableFrom_singleton, hstores.contains_reaching_singleton]
  · intro root
    refine ⟨hstores.nodup_preorder root, fun id => ?_⟩
    rw [hstores.mem_preorder_iff, hstores.contains_reachableFrom_singleton]

/-- Seeds may be repeated, and an unknown one reaches itself alone. -/
example : ((build [.edge "a" "b", .edge "b" "a", .edge "c" "a", .node "d"]).reachableFrom
    ["b", "x", "b"]).toList = ["a", "b", "x"] := by
  decide +kernel

end WorkflowEngine.Graph
