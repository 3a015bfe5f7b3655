import OpGraph.Session
import OpGraph.Config.Load
import OpGraph.Proofs.Reachable
import OpGraph.Proofs.Acyclicity
import OpGraph.Proofs.Traversal
import OpGraph.Proofs.Preservation
import OpGraph.Proofs.Cycles
import OpGraph.Proofs.Lowering.Acyclicity
import OpGraph.Proofs.TopologicalOrder
import OpGraph.Proofs.Lowering.Visits
import OpGraph.Proofs.Lowering.Statistics
import OpGraph.Proofs.Lowering.Completion
import OpGraph.Proofs.AcyclicSessions
import OpGraph.Proofs.Lowering.Failure
import OpGraph.Proofs.DeadNodes
import OpGraph.Proofs.Lowering.Idempotence
import OpGraph.Proofs.Optimization
import OpGraph.Proofs.Lowering.Policies
import OpGraph.Proofs.UnsupportedGradients
import OpGraph.Proofs.FreeSlots
import OpGraph.Proofs.Lowering.Resumption
import OpGraph.Proofs.Faults
import OpGraph.Proofs.Reports
import OpGraph.Proofs.Redirection
import OpGraph.Proofs.Confluence
import OpGraph.Proofs.Creation
import OpGraph.Proofs.Refusals
import OpGraph.Proofs.UseScan
import OpGraph.Proofs.Drawing
import OpGraph.Proofs.Utf8
import OpGraph.Proofs.Config.Grammar
import OpGraph.Proofs.Config.Words
import OpGraph.Proofs.Config.Layers
import OpGraph.Proofs.Config.Tolerance
import OpGraph.Proofs.Allocation
import OpGraph.Proofs.DepthFirst
import OpGraph.Proofs.Termination
import OpGraph.Proofs.Lowering.Uses
import OpGraph.Proofs.Config.Lexing
import OpGraph.Proofs.Config.Written
