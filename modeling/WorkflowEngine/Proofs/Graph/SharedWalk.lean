import WorkflowEngine.Proofs.Graph.RecursiveWalk

/-!
# The recursive walk without a scope

The recursion of `emit` needs a scope to end.  `Walks` says what the recursion does in steps
of its own: it needs no scope, and it does not say that there is an end.  It relates the ids
emitted before a walk, the ids to walk through and the ids emitted after it.  On a graph the
scope of all ids that occur makes no difference, so every walk ends, in one way only, and
preorder is where it ends.
-/

namespace WorkflowEngine.Graph

/-- Walking recursively through some ids: an id that has not been emitted is emitted, then the
walk goes through what comes next to it, and then through the others.  What has been emitted
is shared by the whole walk. -/
inductive Walks (next : NodeId → List NodeId) :
    List NodeId → List NodeId → List NodeId → Prop where
  | done {seen : List NodeId} : Walks next seen [] seen
  | skip {seen rest out : List NodeId} {id : NodeId} (hid : id ∈ seen)
      (hrest : Walks next seen rest out) : Walks next seen (id :: rest) out
  | visit {seen inner rest out : List NodeId} {id : NodeId} (hid : id ∉ seen)
      (hinner : Walks next (seen ++ [id]) (next id) inner) (hrest : Walks next inner rest out) :
      Walks next seen (id :: rest) out

section Walks

variable {next : NodeId → List NodeId}

/-- A walk ends in one way only. -/
theorem Walks.unique {seen todo out other : List NodeId} (h : Walks next seen todo out)
    (hother : Walks next seen todo other) : out = other := by
  induction h generalizing other with
  | done =>
    cases hother
    rfl
  | skip hid _ ih =>
    cases hother with
    | skip _ hrest => exact ih hrest
    | visit hnew _ _ => exact absurd hid hnew
  | visit hid _ _ ihInner ihRest =>
    cases hother with
    | skip hseen _ => exact absurd hseen hid
    | visit _ hinner hrest =>
      obtain rfl := ihInner hinner
      exact ihRest hrest

/-- The recursion of `emit` is a walk as long as it does not leave its scope. -/
theorem walks_emit {scope seen todo : List NodeId} (hnext : ∀ id ∈ scope, next id ⊆ scope)
    (htodo : todo ⊆ scope) : Walks next seen todo (emit next scope seen todo) := by
  induction seen, todo using descend.induct next scope with
  | case1 seen =>
    rw [emit_nil]
    exact .done
  | case2 seen id rest hid _ ihInner ihOuter =>
    rw [emit_cons_new hid.1 hid.2]
    exact .visit hid.2 (ihInner (hnext id hid.1)) (ihOuter (List.subset_of_cons_subset htodo))
  | case3 seen id rest hid ih =>
    have hscope : id ∈ scope := htodo List.mem_cons_self
    have hseen : id ∈ seen := by
      by_contra hnew
      exact hid ⟨hscope, hnew⟩
    rw [emit_cons_skip hid]
    exact .skip hseen (ih (List.subset_of_cons_subset htodo))

end Walks

/-- From every root, also from one that is no node, preorder is a walk along the edges. -/
theorem Stores.walks_preorder {g : Graph} {edges : List (NodeId × NodeId)} (hg : g.Stores edges)
    (root : NodeId) : Walks (targetsOf edges) [] [root] (g.preorder root) := by
  rw [hg.preorder_eq root]
  refine walks_emit (fun id _ target htarget => ?_)
    (List.cons_subset.mpr ⟨root_mem_reachScope edges root, List.nil_subset _⟩)
  exact target_mem_reachScope (mem_targetsOf.mp htarget) root

/-- Whatever was added to a graph, the recursive walk from a root along the edges in the order
in which they were added ends in preorder and in nothing else. -/
theorem walks_build_iff_eq_preorder (additions : List Addition) (root : NodeId)
    (out : List NodeId) :
    Walks (targetsOf (edgesAmong additions)) [] [root] out ↔
      out = (build additions).preorder root := by
  have hwalk := (stores_build additions).walks_preorder root
  constructor
  · intro h
    exact h.unique hwalk
  · rintro rfl
    exact hwalk

/-- The id `c` is pending from the start, and is met before that below `b`. -/
example : (build [.edge "a" "b", .edge "a" "c", .edge "a" "d", .edge "b" "d", .edge "d" "c",
    .edge "c" "a", .edge "a" "a", .edge "a" "b"]).preorder "a" = ["a", "b", "d", "c"] := by
  decide +kernel

end WorkflowEngine.Graph
