import Mathlib.Tactic.Common

/-!
# Messages of the pipe

The requests of the user interface and the responses of the daemon, with the reports some of them
carry.  `F` is the type of the floating-point numbers and `V` that of JSON values.
-/

namespace ValOpt

variable (F V : Type)

/-! ### Latency -/

inductive TelemetrySource where
  | realEtwPresentation
  | realKernelDpcIsr
  | syntheticFixture
  deriving DecidableEq, Repr

/-- How a metric was acquired. -/
structure TelemetryProvenance where
  source : TelemetrySource
  collectionMechanism : String
  timestampSource : String
  unit : String
  isDirectlyMeasured : Bool
  sampleCount : UInt64
  droppedEvents : UInt64
  knownLimitations : List String
  deriving DecidableEq, Repr

inductive LatencyMeasurementStatus where
  | realEtwCollected
  | unsupportedElevationRequired
  | unsupportedSessionInUse
  | sessionError
  | syntheticTestFixture
  deriving DecidableEq, Repr

/-- Latency statistics of one kernel driver. -/
structure DriverLatencyStat where
  driverName : String
  driverPath : String
  baseAddress : UInt64
  maxExecutionUs : UInt64
  totalExecutionUs : UInt64
  executionCount : UInt64
  avgExecutionUs : F
  exceeds500usThreshold : Bool

/-- The latency report of one kernel session. -/
structure LatencyReport where
  provenance : TelemetryProvenance
  status : LatencyMeasurementStatus
  totalDpcsCaptured : UInt64
  totalIsrsCaptured : UInt64
  highestDpcUs : UInt64
  highestIsrUs : UInt64
  highestDpcDriver : Option String
  highestIsrDriver : Option String
  offendingDrivers : List (DriverLatencyStat F)
  topDrivers : List (DriverLatencyStat F)
  systemSuitableForCompetitive : Bool
  recommendations : List String
  testDurationSecs : F

/-! ### Bufferbloat -/

inductive BufferbloatGrade where
  | aPlus
  | a
  | b
  | c
  | d
  | f
  deriving DecidableEq, Repr

/-- The report of one bufferbloat test. -/
structure BufferbloatReport where
  unloadedPingMs : F
  unloadedJitterMs : F
  loadedPingMs : F
  loadedJitterMs : F
  bufferbloatDeltaMs : F
  grade : BufferbloatGrade
  packetLossPct : F
  targetHost : String
  testDurationSecs : F
  recommendations : List String

/-! ### Requests and responses -/

inductive IpcRequest where
  | ping
  | getStatus
  | inspectSystem
  | applyOptimizations
  | rollbackOptimizations
  | trimWorkingSet
  | purgeBloatware
  | getLatencyReport (durationSecs : F)
  | runBufferbloatTest
  | launchOptimizedGame (autoRelaunchGui : Bool)
  | shutdownDaemon

inductive IpcResponse where
  | pong
  | status (daemonVersion : String) (isGameRunning isOptimized : Bool) (activeProfile : String)
  | systemManifest (manifest : V)
  | optimizationSuccess (transactionId : String) (gameMode : Bool) (powerScheme : String)
      (audioEndpoints adapterProperties : UInt64) (qosPolicyActive : Bool)
  | rollbackSuccess (message : String)
  | workingSetTrimmed (bytesReclaimed : UInt64)
  | bloatwarePurged (terminatedCount : UInt64)
  | latencyReport (report : LatencyReport F)
  | bufferbloatReport (report : BufferbloatReport F)
  | gameLaunchAcknowledged (message : String)
  | error (code message : String)

end ValOpt
