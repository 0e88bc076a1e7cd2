import DaqMonitor.Cycle.Derive
import DaqMonitor.Cycle.Dispatch
import DaqMonitor.Cycle.LogLevel
import DaqMonitor.Cycle.MatchStats
import DaqMonitor.Cycle.Monitor
import DaqMonitor.Cycle.Notice
import DaqMonitor.Cycle.Publication
import DaqMonitor.Cycle.Session
import DaqMonitor.Cycle.TtsChannels
import DaqMonitor.Decimal.Nearest
import DaqMonitor.Decimal.Notation
import DaqMonitor.Decimal.Reading
import DaqMonitor.Decimal.Shortest
import DaqMonitor.Flashlist.Basic
import DaqMonitor.Flashlist.Context
import DaqMonitor.Flashlist.Kind
import DaqMonitor.Flashlist.Process
import DaqMonitor.Flashlist.Row
import DaqMonitor.Graph.Basic
import DaqMonitor.Graph.BuilderUnit
import DaqMonitor.Graph.Fed
import DaqMonitor.Graph.FedBuilder
import DaqMonitor.Graph.Frl
import DaqMonitor.Graph.GraphForm
import DaqMonitor.Graph.Identity
import DaqMonitor.Graph.IdentityForm
import DaqMonitor.Graph.ReadoutUnit
import DaqMonitor.Graph.Run
import DaqMonitor.Graph.RunningTotal
import DaqMonitor.Graph.Throttling
import DaqMonitor.Json.Basic
import DaqMonitor.Json.Form
import DaqMonitor.Json.Printer
import DaqMonitor.Json.Reader
import DaqMonitor.Json.Shape
import DaqMonitor.Json.Source
import DaqMonitor.Main
import DaqMonitor.Matching.Outcome
import DaqMonitor.Matching.Position
import DaqMonitor.Matching.Rules
import DaqMonitor.Proofs.Cycle.Accounting
import DaqMonitor.Proofs.Cycle.Addressing
import DaqMonitor.Proofs.Cycle.ChannelTable
import DaqMonitor.Proofs.Cycle.Channels
import DaqMonitor.Proofs.Cycle.Considered
import DaqMonitor.Proofs.Cycle.Consistency
import DaqMonitor.Proofs.Cycle.Constancy
import DaqMonitor.Proofs.Cycle.Counters
import DaqMonitor.Proofs.Cycle.Erasure
import DaqMonitor.Proofs.Cycle.ForeignRows
import DaqMonitor.Proofs.Cycle.Giving
import DaqMonitor.Proofs.Cycle.History
import DaqMonitor.Proofs.Cycle.Independence
import DaqMonitor.Proofs.Cycle.Invariants
import DaqMonitor.Proofs.Cycle.Ledger
import DaqMonitor.Proofs.Cycle.MatchStats
import DaqMonitor.Proofs.Cycle.Nulls
import DaqMonitor.Proofs.Cycle.Operations
import DaqMonitor.Proofs.Cycle.Order
import DaqMonitor.Proofs.Cycle.ProblemLists
import DaqMonitor.Proofs.Cycle.Refinement
import DaqMonitor.Proofs.Cycle.Rejection
import DaqMonitor.Proofs.Cycle.Repetition
import DaqMonitor.Proofs.Cycle.Replay
import DaqMonitor.Proofs.Cycle.Rivals
import DaqMonitor.Proofs.Cycle.Routes
import DaqMonitor.Proofs.Cycle.Rowwise
import DaqMonitor.Proofs.Cycle.Spelling
import DaqMonitor.Proofs.Cycle.Tables
import DaqMonitor.Proofs.Failing
import DaqMonitor.Proofs.Flashlist.Address
import DaqMonitor.Proofs.Flashlist.Integers
import DaqMonitor.Proofs.Graph.Backpressure
import DaqMonitor.Proofs.Graph.Counters
import DaqMonitor.Proofs.Graph.Effect
import DaqMonitor.Proofs.Graph.Export
import DaqMonitor.Proofs.Graph.Footprint
import DaqMonitor.Proofs.Graph.Nulls
import DaqMonitor.Proofs.Graph.Overwriting
import DaqMonitor.Proofs.Graph.Rows
import DaqMonitor.Proofs.Graph.Topics
import DaqMonitor.Proofs.Json.RoundTrip
import DaqMonitor.Proofs.Json.Writing
import DaqMonitor.Proofs.Matching.Counting
import DaqMonitor.Proofs.Matching.Finding
import DaqMonitor.Proofs.Matching.Standing
import DaqMonitor.Proofs.Service.Directory
import DaqMonitor.Proofs.Service.Following
import DaqMonitor.Proofs.Service.LogPruning
import DaqMonitor.Proofs.Service.Reading
import DaqMonitor.Proofs.SortedMap.Lookup
import DaqMonitor.Proofs.Sorting
import DaqMonitor.Proofs.Text.Cutting
import DaqMonitor.Proofs.Topology.Acceptance
import DaqMonitor.Proofs.Topology.Assembly
import DaqMonitor.Proofs.Topology.Declared
import DaqMonitor.Proofs.Topology.Description
import DaqMonitor.Proofs.Topology.FullyLinked
import DaqMonitor.Proofs.Topology.Mirrored
import DaqMonitor.Proofs.Topology.Outcomes
import DaqMonitor.Proofs.Topology.Places
import DaqMonitor.Proofs.Topology.Positions
import DaqMonitor.Proofs.Topology.Readout
import DaqMonitor.Proofs.Topology.Uids
import DaqMonitor.Service.CommandLine
import DaqMonitor.Service.Directory
import DaqMonitor.Service.LogPruning
import DaqMonitor.Service.Payloads
import DaqMonitor.Service.Settings
import DaqMonitor.Service.Snapshot
import DaqMonitor.SortedMap
import DaqMonitor.Text.Basic
import DaqMonitor.Text.Concealed
import DaqMonitor.Text.Quoted
import DaqMonitor.Topology.Build
import DaqMonitor.Topology.Error
import DaqMonitor.Topology.Load
import DaqMonitor.Topology.Spec
