import WorkflowEngine.Client.Exchange
import WorkflowEngine.Log.Outlets
import WorkflowEngine.Log.Scope
import WorkflowEngine.Proofs.Automation.Listing
import WorkflowEngine.Proofs.Document.BytePositions
import WorkflowEngine.Proofs.Document.Encodings
import WorkflowEngine.Proofs.Document.Grammar
import WorkflowEngine.Proofs.Document.Repetitions
import WorkflowEngine.Proofs.Document.Requirements
import WorkflowEngine.Proofs.Document.Saving
import WorkflowEngine.Proofs.Document.Spellings
import WorkflowEngine.Proofs.Document.Stability
import WorkflowEngine.Proofs.Graph.Expansions
import WorkflowEngine.Proofs.Graph.FirstCycle
import WorkflowEngine.Proofs.Graph.Histories
import WorkflowEngine.Proofs.Graph.ReachableSets
import WorkflowEngine.Proofs.Graph.SharedWalk
import WorkflowEngine.Proofs.Http.DownloadNames
import WorkflowEngine.Proofs.Http.Handling
import WorkflowEngine.Proofs.Http.Limits
import WorkflowEngine.Proofs.Http.RoundTrip
import WorkflowEngine.Proofs.Http.Scopes
import WorkflowEngine.Proofs.Log.Decorations
import WorkflowEngine.Proofs.Log.EngineEntries
import WorkflowEngine.Proofs.Log.Independence
import WorkflowEngine.Proofs.Log.JsonLines
import WorkflowEngine.Proofs.Log.Nesting
import WorkflowEngine.Proofs.Log.Reconfiguring
import WorkflowEngine.Proofs.Settings.OriginLists
import WorkflowEngine.Proofs.Settings.Sources
import WorkflowEngine.Proofs.Simulation.Dependence
import WorkflowEngine.Proofs.Simulation.NodeOrder
import WorkflowEngine.Proofs.Simulation.Phantoms
