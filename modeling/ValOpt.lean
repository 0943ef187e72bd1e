import ValOpt.Optimizations.Equiv.Guid
import ValOpt.Effect.Basic
import ValOpt.Models.Snapshot
import ValOpt.System.Machine
import ValOpt.Optimizations.Audio
import ValOpt.Optimizations.GameMode
import ValOpt.Optimizations.Power
import ValOpt.Network.Adapter
import ValOpt.Network.Qos
import ValOpt.Optimizations.Coordinator
import ValOpt.Process.Services
import ValOpt.State.CrashRecovery
import ValOpt.Optimizations.Equiv.GameMode
import ValOpt.Optimizations.Equiv.Audio
import ValOpt.Optimizations.Equiv.Power
import ValOpt.Optimizations.Equiv.Coordinator
import ValOpt.Optimizations.Equiv.History
import ValOpt.Optimizations.Equiv.CrashConsistency
import ValOpt.Optimizations.Equiv.Reversal
import ValOpt.State.Equiv.Rollback
import ValOpt.State.Equiv.Baseline
import ValOpt.Models.Equiv.Snapshot
import ValOpt.State.Equiv.Store
import ValOpt.State.Equiv.Boot
import ValOpt.State.Equiv.AtomicReplace
import ValOpt.State.Equiv.StoreHistory
import ValOpt.Effect.Trace
import ValOpt.State.Equiv.Restore
import ValOpt.State.Equiv.RecordKept
import ValOpt.Text.Format
import ValOpt.Text.Json
import ValOpt.Hash.Sha256
import ValOpt.Models.Json
import ValOpt.State.Equiv.KeyFile
import ValOpt.State.Equiv.FailSecure
import ValOpt.Ipc.Message
import ValOpt.Process.Terminator
import ValOpt.Server.Daemon
import ValOpt.Server.Handler
import ValOpt.State.Equiv.WriteBack
import ValOpt.Server.Equiv.ForeignRecord
import ValOpt.Effect.System
import ValOpt.Server.Interleaving
import ValOpt.Server.Equiv.Elevation
import ValOpt.Server.Equiv.Moves
import ValOpt.Server.Equiv.ActiveSignal
import ValOpt.Server.Equiv.Backups
import ValOpt.State.Equiv.Confined
import ValOpt.Server.Equiv.Sessions
import ValOpt.Text.Utf8
import ValOpt.Text.Json.Doc
import ValOpt.Text.Json.Number
import ValOpt.Text.Json.Schema
import ValOpt.Text.Json.Value
import ValOpt.Ipc.Framing
import ValOpt.Ipc.Equiv.Framing
import ValOpt.Server.Exchange
import ValOpt.Server.Ledger
import ValOpt.Server.Equiv.Exchange
import ValOpt.Latency.DriverIsolator
import ValOpt.Latency.Monitor
import ValOpt.Tally.Basic
import ValOpt.Latency.Report
import ValOpt.Latency.Equiv.Accounting
import ValOpt.Latency.Equiv.Verdict
import ValOpt.Server.Equiv.Survival
import ValOpt.Process.Equiv.Sweep
import ValOpt.Benchmarking.Models
import ValOpt.Benchmarking.Stats
import ValOpt.Statistics.Basic
import ValOpt.Benchmarking.Equiv.Bootstrap
import ValOpt.Benchmarking.Equiv.Comparison
import ValOpt.Benchmarking.EtwCapture
import ValOpt.Benchmarking.Equiv.EtwCapture
import ValOpt.FileTree.Basic
import ValOpt.State.LinkedStore
import ValOpt.State.Equiv.LinkedTarget
import ValOpt.State.Equiv.LinkedStore
import ValOpt.Safety.VanguardCheck
import ValOpt.Safety.Equiv.VanguardCheck
import ValOpt.Process.RelaunchPath
import ValOpt.Process.Equiv.RelaunchPath
import ValOpt.Process.Relaunch
import ValOpt.Server.Equiv.Spawns
import ValOpt.Server.Equiv.FailedLaunch
import ValOpt.Server.Equiv.MatchEnd
import ValOpt.Process.Equiv.ServicePause
import ValOpt.Process.Closing
import ValOpt.Process.Equiv.Closing
import ValOpt.Server.Equiv.Listener
import ValOpt.Server.Instances
import ValOpt.Server.Equiv.Instances
import ValOpt.Text.Lowercase
import ValOpt.State.SnapshotPath
import ValOpt.State.Equiv.CanonicalText
import ValOpt.State.Equiv.SnapshotPath
import ValOpt.Latency.Equiv.Monitor
import ValOpt.Latency.Equiv.EventTime
import ValOpt.Ranking.Basic
import ValOpt.Latency.Equiv.Attribution
import ValOpt.Benchmarking.Equiv.Metrics
import ValOpt.Benchmarking.Equiv.FrameCapture
import ValOpt.Benchmarking.Equiv.CaptureRounds
import ValOpt.Server.Equiv.GameDetection
import ValOpt.Server.Equiv.CommandLine
import ValOpt.Network.Equiv.Atomicity
import ValOpt.Statistics.Ranks
import ValOpt.Benchmarking.Equiv.MannWhitney
import ValOpt.Benchmarking.Equiv.TTests
import ValOpt.Benchmarking.Equiv.VarianceVerdict
import ValOpt.Benchmarking.Equiv.Deltas
import ValOpt.Bytes.LittleEndian
import ValOpt.Hardware.Cpu
import ValOpt.Optimizations.Equiv.GuidText
import ValOpt.Hardware.Equiv.Cpu
import ValOpt.Benchmarking.Extended
import ValOpt.Benchmarking.FloatStats
import ValOpt.Benchmarking.Equiv.TieLoop
import ValOpt.Benchmarking.Equiv.FloatAgreement
import ValOpt.Hardware.Equiv.Bounds
import ValOpt.Benchmarking.Beta
import ValOpt.Hardware.Equiv.Topology
import ValOpt.Benchmarking.Equiv.Beta
import ValOpt.Network.Bufferbloat
import ValOpt.Network.Equiv.Probe
import ValOpt.Network.Equiv.Bufferbloat
import ValOpt.Mailbox.Basic
import ValOpt.Network.Echo
import ValOpt.Network.Equiv.LateReplies
import ValOpt.Benchmarking.AbRunner
import ValOpt.Benchmarking.Equiv.AbRunner
import ValOpt.Benchmarking.Equiv.ConstantTrials
import ValOpt.Benchmarking.Equiv.LiveReport
import ValOpt.Benchmarking.Equiv.Synthetic
import ValOpt.Effect.Dialogue
import ValOpt.Network.Equiv.PowerShell
import ValOpt.Cli.Equiv.Services
import ValOpt.Cli.Equiv.Snapshot
import ValOpt.Text.Json.Definite
import ValOpt.Ipc.Equiv.CutMessage
import ValOpt.Server.Equiv.Genuine
import ValOpt.Server.Handoff
import ValOpt.Server.Equiv.Handoff
import ValOpt.Hardware.Security
import ValOpt.Hardware.Equiv.Security
import ValOpt.Hardware.Inventory
import ValOpt.Hardware.Manifest
import ValOpt.Hardware.Equiv.Manifest
import ValOpt.Server.Equiv.Admission
import ValOpt.Gui.Window
import ValOpt.Gui.Desk
import ValOpt.Gui.Equiv.Window
import ValOpt.Gui.Equiv.Desk
import ValOpt.Server.Installation
import ValOpt.Server.Equiv.Installation
import ValOpt.Latency.RealSession
import ValOpt.Latency.Equiv.RealSession
