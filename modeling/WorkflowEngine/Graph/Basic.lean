import Std.Data.TreeMap
import Std.Data.TreeSet

/-!
# Directed graphs

A finite directed graph over text ids that keeps the order of insertion
everywhere: the nodes stand in order of first mention, and the successors and
predecessors of a node in the order in which the edges were added.  Parallel edges
and self-loops are kept as given.
-/

namespace WorkflowEngine

/-- The id of a node of a graph. -/
abbrev NodeId := String

/-- A set of node ids. -/
abbrev IdSet := Std.TreeSet NodeId

/-- A directed graph. -/
structure Graph where
  /-- The nodes in order of first mention. -/
  order : Array NodeId
  /-- The same nodes as a set. -/
  members : IdSet
  /-- The targets of the edges that leave a node. -/
  outgoing : Std.TreeMap NodeId (Array NodeId)
  /-- The sources of the edges that enter a node. -/
  incoming : Std.TreeMap NodeId (Array NodeId)
  edgeCount : Nat

namespace Graph

/-- The graph without nodes. -/
def empty : Graph := ⟨#[], ∅, ∅, ∅, 0⟩

instance : Inhabited Graph := ⟨empty⟩

/-- The nodes in order of first mention. -/
def nodes (g : Graph) : List NodeId := g.order.toList

/-- How many nodes there are. -/
def nodeCount (g : Graph) : Nat := g.order.size

def contains (g : Graph) (id : NodeId) : Bool := g.members.contains id

/-- The targets of the edges that leave a node, in the order of insertion. -/
def successors (g : Graph) (id : NodeId) : List NodeId := (g.outgoing.getD id #[]).toList

/-- The sources of the edges that enter a node, in the order of insertion. -/
def predecessors (g : Graph) (id : NodeId) : List NodeId := (g.incoming.getD id #[]).toList

/-- How many edges leave a node. -/
def outDegree (g : Graph) (id : NodeId) : Nat := (g.successors id).length

/-- Add a node; a node that is there already stays where it is. -/
def addNode (g : Graph) (id : NodeId) : Graph :=
  if g.members.contains id then g
  else { g with order := g.order.push id, members := g.members.insert id }

/-- Append an id to the list kept for a node. -/
def appendAt (lists : Std.TreeMap NodeId (Array NodeId)) (key value : NodeId) :
    Std.TreeMap NodeId (Array NodeId) :=
  lists.alter key fun found => some ((found.getD #[]).push value)

/-- Add an edge and, where they are missing, its ends. -/
def addEdge (g : Graph) (source target : NodeId) : Graph :=
  let h := (g.addNode source).addNode target
  { h with
    outgoing := appendAt h.outgoing source target
    incoming := appendAt h.incoming target source
    edgeCount := h.edgeCount + 1 }

/-- The graph of a list of nodes and a list of edges, the nodes added first. -/
def ofLists (nodes : List NodeId) (edges : List (NodeId × NodeId)) : Graph :=
  edges.foldl (fun g e => g.addEdge e.1 e.2) (nodes.foldl addNode empty)

/-- A short description of a graph. -/
def describe (g : Graph) : String :=
  "Graph(nodes=" ++ toString g.nodeCount ++ ", edges=" ++ toString g.edgeCount ++ ")"

end Graph

end WorkflowEngine
