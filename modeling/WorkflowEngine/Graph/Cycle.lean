import WorkflowEngine.Graph.Basic

/-!
# Finding a cycle

A depth-first search that keeps its path explicitly.  Roots are tried in the order
of the nodes and successors in the order of the edges, and the search stops at the
first edge that leads back to a node on the path.
-/

namespace WorkflowEngine.Graph

/-- A node on the path together with its successors that have not been looked at. -/
structure Frame where
  node : NodeId
  rest : List NodeId

/-- A search under way. -/
structure Search where
  /-- One frame for each node on the path, the latest first. -/
  frames : List Frame
  /-- The nodes on the path, the latest first. -/
  path : List NodeId
  /-- The same nodes as a set. -/
  onPath : IdSet
  /-- Every node met so far, by this root or an earlier one. -/
  visited : IdSet

/-- What a search has come to. -/
inductive Verdict where
  /-- No edge back to the path so far. -/
  | running (s : Search)
  /-- An edge closes a cycle. -/
  | closed (cycle : List NodeId)

namespace Search

/-- A search about to start at a root that has not been met. -/
def start (g : Graph) (visited : IdSet) (root : NodeId) : Search where
  frames := [⟨root, g.successors root⟩]
  path := [root]
  onPath := (∅ : IdSet).insert root
  visited := visited.insert root

/-- The part of the path from a node on, followed by the node again. -/
def cycleFrom (s : Search) (node : NodeId) : List NodeId :=
  s.path.reverse.dropWhile (· ≠ node) ++ [node]

/-- Look at one successor of the latest node on the path, or leave that node if
there is none. -/
def step (g : Graph) (s : Search) : Verdict :=
  match s.frames with
  | [] => .running s
  | ⟨node, []⟩ :: below => .running ⟨below, s.path.tail, s.onPath.erase node, s.visited⟩
  | ⟨node, next :: rest⟩ :: below =>
    if s.onPath.contains next then .closed (s.cycleFrom next)
    else if s.visited.contains next then .running { s with frames := ⟨node, rest⟩ :: below }
    else
      .running ⟨⟨next, g.successors next⟩ :: ⟨node, rest⟩ :: below, next :: s.path,
        s.onPath.insert next, s.visited.insert next⟩

/-- Take steps until the path is empty or a cycle is closed, at most `fuel` of
them. -/
def run (g : Graph) : Nat → Search → Verdict
  | 0, s => .running s
  | fuel + 1, s =>
    if s.frames.isEmpty then .running s
    else match s.step g with
      | .running next => run g fuel next
      | .closed cycle => .closed cycle

end Search

/-- Enough steps for one root: each looks at an edge or leaves a node. -/
def searchFuel (g : Graph) : Nat := g.edgeCount + g.nodeCount + 1

/-- Search from roots in order, skipping those that have been met. -/
def searchFrom (g : Graph) : List NodeId → IdSet → Option (List NodeId)
  | [], _ => none
  | root :: roots, visited =>
    if visited.contains root then searchFrom g roots visited
    else match (Search.start g visited root).run g g.searchFuel with
      | .closed cycle => some cycle
      | .running s => searchFrom g roots s.visited

/-- The first cycle that the search closes: a node, a walk from it, and the node
again. -/
def detectCycle (g : Graph) : Option (List NodeId) := searchFrom g g.nodes ∅

end WorkflowEngine.Graph
