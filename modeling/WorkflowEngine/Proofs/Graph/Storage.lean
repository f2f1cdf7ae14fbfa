import Mathlib.Data.List.Nodup
import WorkflowEngine.Graph.Basic

/-!
# What a graph stores

The two adjacency maps, the ordered nodes and the edge counter of a graph are kept
in step by every addition.  `Graph.Stores` says what they hold once some edges have
been added, in terms of the list of those edges alone, so that no later proof has
to open the maps again.
-/

namespace WorkflowEngine

/-! ## Sets of ids -/

namespace IdSet

theorem contains_insert (s : IdSet) (a b : NodeId) :
    (s.insert a).contains b = (decide (a = b) || s.contains b) := by
  have hcompare : (compare a b == Ordering.eq) = decide (a = b) := by
    by_cases h : a = b
    · simp [h]
    · simp [h]
  rw [Std.TreeSet.contains_insert, hcompare]

theorem contains_erase (s : IdSet) (a b : NodeId) :
    (s.erase a).contains b = (decide (a ≠ b) && s.contains b) := by
  have hcompare : (compare a b != Ordering.eq) = decide (a ≠ b) := by
    by_cases h : a = b
    · simp [h]
    · simp [h, bne]
  rw [Std.TreeSet.contains_erase, hcompare]

end IdSet

namespace Graph

/-! ## Edges as pairs -/

/-- The targets of the edges that leave an id, in order. -/
def targetsOf (edges : List (NodeId × NodeId)) (id : NodeId) : List NodeId :=
  (edges.filter (·.1 = id)).map (·.2)

/-- The sources of the edges that enter an id, in order. -/
def sourcesOf (edges : List (NodeId × NodeId)) (id : NodeId) : List NodeId :=
  (edges.filter (·.2 = id)).map (·.1)

theorem mem_targetsOf {edges : List (NodeId × NodeId)} {a b : NodeId} :
    b ∈ targetsOf edges a ↔ (a, b) ∈ edges := by
  simp [targetsOf]

theorem sourcesOf_eq_targetsOf_swap (edges : List (NodeId × NodeId)) (id : NodeId) :
    sourcesOf edges id = targetsOf (edges.map Prod.swap) id := by
  simp [sourcesOf, targetsOf, List.filter_map, Function.comp_def]

/-! ## The contents of a graph -/

/-- A graph holds certain edges, in the order in which they were added. -/
structure Stores (g : Graph) (edges : List (NodeId × NodeId)) : Prop where
  successors : ∀ id, g.successors id = targetsOf edges id
  predecessors : ∀ id, g.predecessors id = sourcesOf edges id
  edgeCount : g.edgeCount = edges.length
  members : ∀ id, g.members.contains id = true ↔ id ∈ g.nodes
  nodup : g.nodes.Nodup
  ends : ∀ e ∈ edges, e.1 ∈ g.nodes ∧ e.2 ∈ g.nodes

theorem stores_empty : Stores empty [] where
  successors id := by simp [successors, empty, targetsOf]
  predecessors id := by simp [predecessors, empty, sourcesOf]
  edgeCount := rfl
  members id := by simp [empty, nodes]
  nodup := by simp [empty, nodes]
  ends := by simp

theorem nodes_addNode {g : Graph} {edges : List (NodeId × NodeId)}
    (hg : g.Stores edges) (id : NodeId) :
    (g.addNode id).nodes = if id ∈ g.nodes then g.nodes else g.nodes ++ [id] := by
  by_cases h : id ∈ g.nodes
  · simp [addNode, (hg.members id).mpr h, h]
  · have hnot : ¬ g.members.contains id = true := fun hin => h ((hg.members id).mp hin)
    rw [if_neg h, addNode, if_neg hnot]
    simp [nodes]

theorem mem_nodes_addNode {g : Graph} {edges : List (NodeId × NodeId)}
    (hg : g.Stores edges) (id other : NodeId) :
    other ∈ (g.addNode id).nodes ↔ other ∈ g.nodes ∨ other = id := by
  rw [nodes_addNode hg]
  by_cases h : id ∈ g.nodes
  · rw [if_pos h]
    exact (or_iff_left_of_imp fun heq => heq ▸ h).symm
  · simp [if_neg h]

theorem members_addNode (g : Graph) (id other : NodeId) :
    (g.addNode id).members.contains other = true ↔
      g.members.contains other = true ∨ other = id := by
  unfold addNode
  by_cases h : g.members.contains id = true
  · rw [if_pos h]
    exact (or_iff_left_of_imp fun heq => heq ▸ h).symm
  · rw [if_neg h]
    simp only [IdSet.contains_insert, Bool.or_eq_true, decide_eq_true_eq]
    tauto

theorem Stores.addNode {g : Graph} {edges : List (NodeId × NodeId)}
    (hg : g.Stores edges) (id : NodeId) : (g.addNode id).Stores edges where
  successors other := by
    rw [← hg.successors other]
    unfold Graph.addNode
    split <;> rfl
  predecessors other := by
    rw [← hg.predecessors other]
    unfold Graph.addNode
    split <;> rfl
  edgeCount := by
    rw [← hg.edgeCount]
    unfold Graph.addNode
    split <;> rfl
  members other := by
    rw [members_addNode, mem_nodes_addNode hg, hg.members]
  nodup := by
    rw [nodes_addNode hg]
    by_cases h : id ∈ g.nodes
    · rw [if_pos h]
      exact hg.nodup
    · rw [if_neg h]
      exact List.Nodup.append hg.nodup (List.nodup_singleton id) (by simpa using h)
  ends e he := by
    obtain ⟨hsource, htarget⟩ := hg.ends e he
    exact ⟨(mem_nodes_addNode hg id _).mpr (Or.inl hsource),
      (mem_nodes_addNode hg id _).mpr (Or.inl htarget)⟩

theorem toList_appendAt (lists : Std.TreeMap NodeId (Array NodeId)) (key value id : NodeId) :
    ((appendAt lists key value).getD id #[]).toList =
      (lists.getD id #[]).toList ++ if key = id then [value] else [] := by
  unfold appendAt
  rw [Std.TreeMap.getD_alter]
  by_cases h : key = id
  · subst h
    simp [Std.TreeMap.getD_eq_getD_getElem?]
  · simp [h]

theorem Stores.addEdge {g : Graph} {edges : List (NodeId × NodeId)}
    (hg : g.Stores edges) (source target : NodeId) :
    (g.addEdge source target).Stores (edges ++ [(source, target)]) := by
  have hsource := hg.addNode source
  have hboth := hsource.addNode target
  constructor
  · intro id
    have hold := hboth.successors id
    simp only [Graph.successors] at hold
    simp only [Graph.successors, Graph.addEdge, toList_appendAt, hold]
    by_cases h : source = id
    · simp [targetsOf, h]
    · simp [targetsOf, h]
  · intro id
    have hold := hboth.predecessors id
    simp only [Graph.predecessors] at hold
    simp only [Graph.predecessors, Graph.addEdge, toList_appendAt, hold]
    by_cases h : target = id
    · simp [sourcesOf, h]
    · simp [sourcesOf, h]
  · simp [Graph.addEdge, hboth.edgeCount]
  · exact hboth.members
  · exact hboth.nodup
  · intro e he
    rcases List.mem_append.mp he with hold | hnew
    · exact hboth.ends e hold
    · rw [List.mem_singleton.mp hnew]
      have hin := (mem_nodes_addNode hg source source).mpr (Or.inr rfl)
      exact ⟨(mem_nodes_addNode hsource target _).mpr (Or.inl hin),
        (mem_nodes_addNode hsource target _).mpr (Or.inr rfl)⟩

/-! ## Graphs of lists -/

theorem Stores.foldl_addNode {g : Graph} {edges : List (NodeId × NodeId)}
    (hg : g.Stores edges) (ids : List NodeId) : (ids.foldl Graph.addNode g).Stores edges := by
  induction ids generalizing g with
  | nil => exact hg
  | cons id ids ih => exact ih (hg.addNode id)

theorem Stores.foldl_addEdge {g : Graph} {edges : List (NodeId × NodeId)}
    (hg : g.Stores edges) (more : List (NodeId × NodeId)) :
    (more.foldl (fun g e => g.addEdge e.1 e.2) g).Stores (edges ++ more) := by
  induction more generalizing g edges with
  | nil => simpa using hg
  | cons e more ih => simpa using ih (hg.addEdge e.1 e.2)

/-- The graph of some lists holds exactly the listed edges. -/
theorem stores_ofLists (ids : List NodeId) (edges : List (NodeId × NodeId)) :
    (ofLists ids edges).Stores edges := by
  exact (stores_empty.foldl_addNode ids).foldl_addEdge edges

/-! ## Graphs built by additions -/

/-- One addition to a graph. -/
inductive Addition where
  | node (id : NodeId)
  | edge (source target : NodeId)

/-- The ends of an edge that is added. -/
def Addition.ends? : Addition → Option (NodeId × NodeId)
  | .node _ => none
  | .edge source target => some (source, target)

/-- The graph after one more addition. -/
def add (g : Graph) : Addition → Graph
  | .node id => g.addNode id
  | .edge source target => g.addEdge source target

/-- The graph that some additions make of the empty graph. -/
def build (additions : List Addition) : Graph := additions.foldl add empty

/-- The edges among some additions, in order. -/
def edgesAmong (additions : List Addition) : List (NodeId × NodeId) :=
  additions.filterMap Addition.ends?

theorem Stores.foldl_add {g : Graph} {edges : List (NodeId × NodeId)}
    (hg : g.Stores edges) (additions : List Addition) :
    (additions.foldl add g).Stores (edges ++ edgesAmong additions) := by
  induction additions generalizing g edges with
  | nil => simpa [edgesAmong] using hg
  | cons addition additions ih =>
    cases addition with
    | node id => exact ih (hg.addNode id)
    | edge source target =>
      have hrest := ih (hg.addEdge source target)
      rwa [List.append_assoc] at hrest

/-- A graph holds the edges that were added to it, whatever else was added in between. -/
theorem stores_build (additions : List Addition) :
    (build additions).Stores (edgesAmong additions) :=
  stores_empty.foldl_add additions

/-! ## Edges still to be looked at -/

/-- How many edges leave an id outside of a set.  Traversals look at the edges of an
id when they first meet it, so this number bounds what they still have to do. -/
def openEdges (edges : List (NodeId × NodeId)) (seen : IdSet) : Nat :=
  (edges.filter fun e => !seen.contains e.1).length

theorem openEdges_empty (edges : List (NodeId × NodeId)) :
    openEdges edges ∅ = edges.length := by
  simp [openEdges]

/-- Meeting an id uses up exactly the edges that leave it. -/
theorem openEdges_eq_add_insert (edges : List (NodeId × NodeId)) {seen : IdSet} {id : NodeId}
    (hid : seen.contains id = false) :
    openEdges edges seen =
      (targetsOf edges id).length + openEdges edges (seen.insert id) := by
  induction edges with
  | nil => simp [openEdges, targetsOf]
  | cons e edges ih =>
    simp only [openEdges, targetsOf, List.length_map] at ih ⊢
    simp only [IdSet.contains_insert] at ih ⊢
    by_cases he : e.1 = id
    · simp only [List.filter_cons, he, hid, Bool.not_false, if_true, decide_true,
        Bool.true_or, Bool.not_true, List.length_cons, Bool.false_eq_true, if_false]
      omega
    · have hne : ¬ id = e.1 := fun h => he h.symm
      cases hseen : seen.contains e.1 with
      | true => simpa [List.filter_cons, he, hne, hseen] using ih
      | false =>
        simp only [List.filter_cons, he, hne, hseen, decide_false, Bool.false_or,
          Bool.not_false, if_true, List.length_cons, Bool.false_eq_true, if_false]
        omega

end Graph

end WorkflowEngine
