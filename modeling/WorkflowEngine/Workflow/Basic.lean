import WorkflowEngine.Workflow.Shapes

/-!
# Documents and workflows

A `Document` is what is loaded and saved: the canonical content of an accepted
value, with everything its author wrote.  A `Workflow` is what the engine works on:
the id, kind and label of each node and the ends of each edge.  The engine sees a
document only through `Document.workflow`, so nothing else in it can matter.
-/

namespace WorkflowEngine

/-- What the engine sees of a node. -/
structure Node where
  id : String
  kind : NodeKind
  label : Text
deriving DecidableEq, Inhabited

/-- The name of a node in messages: its label, or its id if the label is empty. -/
def Node.displayName (n : Node) : Text := if n.label = "" then n.id else n.label

/-- What the engine sees of an edge. -/
structure Edge where
  source : String
  target : String
deriving DecidableEq, Inhabited

/-- The nodes and edges the engine works on, in document order. -/
structure Workflow where
  nodes : List Node
  edges : List Edge
deriving DecidableEq, Inhabited

namespace Workflow

/-- The nodes of one kind, in document order. -/
def ofKind (w : Workflow) (k : NodeKind) : List Node := w.nodes.filter (·.kind = k)

end Workflow

/-- An accepted workflow document in canonical form. -/
structure Document where
  content : Json
  accepted : ∃ source, Workflow.documentShape.check source = .ok content

instance : DecidableEq Document := fun a b =>
  if h : a.content = b.content then isTrue (by cases a; cases b; simp_all)
  else isFalse fun same => h (same ▸ rfl)

/-- The engine's view of a node of an accepted document. -/
def Node.ofContent (j : Json) : Node where
  id := (j.field "id").string
  kind := (NodeKind.ofName? ((j.field "data").field "type").string).getD default
  label := ((j.field "data").field "label").text

/-- The engine's view of an edge of an accepted document. -/
def Edge.ofContent (j : Json) : Edge where
  source := (j.field "source").string
  target := (j.field "target").string

namespace Document

open Schema

/-- Accept a value as a document, or report everything that is wrong with it. -/
def ofJson (source : Json) : Checked Document :=
  match h : Workflow.documentShape.check source with
  | .ok content => .ok ⟨content, source, h⟩
  | .error issues => .error issues

/-- The nodes as written. -/
def nodes (d : Document) : List Json := (d.content.field "nodes").items

/-- The edges as written. -/
def edges (d : Document) : List Json := (d.content.field "edges").items

/-- What the engine sees of a document. -/
def workflow (d : Document) : Workflow where
  nodes := d.nodes.map Node.ofContent
  edges := d.edges.map Edge.ofContent

/-- The text of a saved document.  A document with a text that is no string cannot be
saved. -/
def save? (d : Document) : Option String :=
  if d.content.isProper then some d.content.pretty else none

end Document

end WorkflowEngine
