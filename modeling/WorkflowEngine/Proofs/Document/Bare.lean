import WorkflowEngine.Workflow.Basic

/-!
# Bare documents

Documents whose nodes and edges hold no more than what they need, and a text that is no
string.
-/

namespace WorkflowEngine.Document

/-- A node with an id and a kind and nothing else. -/
def bareNode (id : String) (k : NodeKind) : Json :=
  .obj [("id", .str id), ("type", .str k.name), ("position", .obj []),
    ("data", .obj [("type", .str k.name)])]

/-- An edge with an id and its ends and nothing else. -/
def bareEdge (id source target : String) : Json :=
  .obj [("id", .str id), ("source", .str source), ("target", .str target)]

/-- A document with nodes and edges and nothing else. -/
def bareDocument (nodes edges : List Json) : Json :=
  .obj [("nodes", .arr nodes), ("edges", .arr edges)]

/-- A text that is one surrogate. -/
def loneSurrogate : Text := .broken ⟨[.ofNat 0xD800], by decide⟩

end WorkflowEngine.Document
