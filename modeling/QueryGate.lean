import QueryGate.Analysis.Written
import QueryGate.Engine.Serve
import QueryGate.Json.Reading
import QueryGate.Main
import QueryGate.Rehearsal.Session
import QueryGate.Proofs.ExactCost
import QueryGate.Proofs.Chains
import QueryGate.Proofs.StageLines
import QueryGate.Proofs.Durations
import QueryGate.Proofs.InFlight
import QueryGate.Proofs.Placements
import QueryGate.Proofs.Decision
import QueryGate.Proofs.Inlining
import QueryGate.Proofs.Factoring
import QueryGate.Proofs.Additions
import QueryGate.Proofs.Writings
import QueryGate.Proofs.Naming
import QueryGate.Proofs.CommandLine
import QueryGate.Proofs.Reachable
import QueryGate.Proofs.Overrides
import QueryGate.Proofs.Layout
import QueryGate.Proofs.Positions
import QueryGate.Proofs.SourceOrder
import QueryGate.Proofs.Literals
import QueryGate.Proofs.PageSizes
import QueryGate.Proofs.DepthBounds
import QueryGate.Proofs.ChargedDepth
import QueryGate.Proofs.Environments
import QueryGate.Proofs.Quoting
import QueryGate.Proofs.Lines
import QueryGate.Proofs.Sheets
import QueryGate.Proofs.PartialFiles
import QueryGate.Proofs.HandedDown
import QueryGate.Proofs.Calls
import QueryGate.Proofs.Summaries
