import WorkflowEngine.Graph.Basic

/-!
# Traversals of a graph

Two traversals that keep the nodes still to be looked at in a list of their own, so
that no recursion follows the depth of the graph.  `preorder` visits a node and then
descends into its successors in order, and `closure` collects all that can be
reached from some seeds.  Both look at every edge at most once, which bounds the
number of rounds.
-/

namespace WorkflowEngine.Graph

/-! ## Preorder -/

/-- A walk under way. -/
structure Walk where
  visited : IdSet
  /-- Nodes still to be looked at, the next one first. -/
  pending : List NodeId
  /-- Nodes visited, the latest first. -/
  emitted : List NodeId

namespace Walk

/-- A walk about to start at a node. -/
def start (root : NodeId) : Walk := ⟨∅, [root], []⟩

/-- Look at the next node.  A new one is visited, and its successors that are new
come before everything else. -/
def step (g : Graph) (w : Walk) : Walk :=
  match w.pending with
  | [] => w
  | node :: rest =>
    if w.visited.contains node then { w with pending := rest }
    else
      let visited := w.visited.insert node
      let fresh := (g.successors node).filter fun next => !visited.contains next
      ⟨visited, fresh ++ rest, node :: w.emitted⟩

/-- Take steps until nothing is pending, at most `fuel` of them. -/
def run (g : Graph) : Nat → Walk → Walk
  | 0, w => w
  | fuel + 1, w => if w.pending.isEmpty then w else run g fuel (w.step g)

end Walk

/-- The nodes met by walking depth first from a root, each once, in the order of the
first visit. -/
def preorder (g : Graph) (root : NodeId) : List NodeId :=
  ((Walk.start root).run g (1 + g.edgeCount)).emitted.reverse

/-! ## Closure -/

/-- A closure under way. -/
structure Spread where
  reached : IdSet
  /-- Nodes still to be looked at, the next one first. -/
  queue : List NodeId

namespace Spread

/-- Look at the next node.  The neighbours of a new one that are new themselves go
to the end of the queue. -/
def step (neighbours : NodeId → List NodeId) (s : Spread) : Spread :=
  match s.queue with
  | [] => s
  | node :: rest =>
    if s.reached.contains node then { s with queue := rest }
    else
      let reached := s.reached.insert node
      let fresh := (neighbours node).filter fun next => !reached.contains next
      ⟨reached, rest ++ fresh⟩

/-- Take steps until the queue is empty, at most `fuel` of them. -/
def run (neighbours : NodeId → List NodeId) : Nat → Spread → Spread
  | 0, s => s
  | fuel + 1, s => if s.queue.isEmpty then s else run neighbours fuel (s.step neighbours)

end Spread

/-- Everything that can be reached from the seeds by going to neighbours; the seeds
themselves are included.  The fuel has to cover the seeds and all lists of
neighbours. -/
def closure (neighbours : NodeId → List NodeId) (fuel : Nat) (seeds : List NodeId) : IdSet :=
  (Spread.run neighbours fuel ⟨∅, seeds⟩).reached

/-- The nodes that can be reached from some source along edges. -/
def reachableFrom (g : Graph) (sources : List NodeId) : IdSet :=
  closure g.successors (sources.length + g.edgeCount) sources

/-- The nodes from which some target can be reached along edges. -/
def reaching (g : Graph) (targets : List NodeId) : IdSet :=
  closure g.predecessors (targets.length + g.edgeCount) targets

end WorkflowEngine.Graph
