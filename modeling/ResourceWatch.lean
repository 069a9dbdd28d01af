import ResourceWatch.Address
import ResourceWatch.CommandLine.Arguments
import ResourceWatch.CommandLine.Invocation
import ResourceWatch.CommandLine.Session
import ResourceWatch.CommandLine.Usage
import ResourceWatch.Config
import ResourceWatch.Event
import ResourceWatch.Failure
import ResourceWatch.Frame
import ResourceWatch.Gate
import ResourceWatch.Json.Document
import ResourceWatch.Json.Literal
import ResourceWatch.Json.Printer
import ResourceWatch.Json.Value
import ResourceWatch.Kind
import ResourceWatch.Label.Selector
import ResourceWatch.Label.Set
import ResourceWatch.Log
import ResourceWatch.Main
import ResourceWatch.Network
import ResourceWatch.Number.Binary64
import ResourceWatch.Number.Shortest
import ResourceWatch.Number.Word
import ResourceWatch.OrderedMap
import ResourceWatch.Proofs.ByteOrder
import ResourceWatch.Proofs.ChangeLines
import ResourceWatch.Proofs.DocumentValue
import ResourceWatch.Proofs.FailedCalls
import ResourceWatch.Proofs.FloatText
import ResourceWatch.Proofs.FrameMembers
import ResourceWatch.Proofs.FrameRoundTrip
import ResourceWatch.Proofs.FreshLines
import ResourceWatch.Proofs.GateHistory
import ResourceWatch.Proofs.GatedReplay
import ResourceWatch.Proofs.IndependentWrites
import ResourceWatch.Proofs.KeptArguments
import ResourceWatch.Proofs.LiteralRoundTrip
import ResourceWatch.Proofs.LogBursts
import ResourceWatch.Proofs.LogContents
import ResourceWatch.Proofs.LogHistory
import ResourceWatch.Proofs.LogText
import ResourceWatch.Proofs.OpeningBurst
import ResourceWatch.Proofs.Outcomes
import ResourceWatch.Proofs.PercentRoundTrip
import ResourceWatch.Proofs.PrintedLog
import ResourceWatch.Proofs.PumpClock
import ResourceWatch.Proofs.PumpHandover
import ResourceWatch.Proofs.ReconnectTimes
import ResourceWatch.Proofs.RecordHistory
import ResourceWatch.Proofs.RegistryTables
import ResourceWatch.Proofs.SelectorConjunction
import ResourceWatch.Proofs.SelectorText
import ResourceWatch.Proofs.SentOn
import ResourceWatch.Proofs.SharedWorld
import ResourceWatch.Proofs.ShortestDecimal
import ResourceWatch.Proofs.SnapshotWrites
import ResourceWatch.Proofs.StreamEnd
import ResourceWatch.Proofs.StreamLife
import ResourceWatch.Proofs.StreamQuery
import ResourceWatch.Proofs.TextsApart
import ResourceWatch.Proofs.TrimAndCut
import ResourceWatch.Proofs.UsableOrigin
import ResourceWatch.Proofs.ValueEquality
import ResourceWatch.Proofs.ValueRoundTrip
import ResourceWatch.Proofs.VariableSettings
import ResourceWatch.Proofs.WatchReplay
import ResourceWatch.Proofs.WellFormedWorld
import ResourceWatch.Pump
import ResourceWatch.Registry.Basic
import ResourceWatch.Registry.Engine
import ResourceWatch.Resource.Basic
import ResourceWatch.Resource.Cluster
import ResourceWatch.Resource.Workload
import ResourceWatch.Socket.Digest
import ResourceWatch.Socket.Endpoint
import ResourceWatch.Socket.Handshake
import ResourceWatch.Socket.Packet
import ResourceWatch.Socket.Reader
import ResourceWatch.Store.Basic
import ResourceWatch.Store.Record
import ResourceWatch.Store.Write
import ResourceWatch.Stream.Basic
import ResourceWatch.Stream.Line
import ResourceWatch.Text.Blank
import ResourceWatch.Text.Percent
import ResourceWatch.Text.Printable
import ResourceWatch.Text.Quoted
import ResourceWatch.Text.Split
import ResourceWatch.Timestamp
import ResourceWatch.View
import ResourceWatch.World
