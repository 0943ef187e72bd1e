import ValOpt.Latency.Session
import ValOpt.Text.Lowercase

/-!
# The latency report

`KernelLatencySessionManager::provenance` and `latency/report.rs`: what a session is reported as.
-/

namespace ValOpt

open Text

variable {F : Type}

namespace LatencyMeasurementStatus

/-- The source of a session with this status. -/
def source : LatencyMeasurementStatus → TelemetrySource
  | syntheticTestFixture => .syntheticFixture
  | _ => .realKernelDpcIsr

/-- The collection mechanism of a session with this status. -/
def mechanism : LatencyMeasurementStatus → String
  | realEtwCollected => "Windows ETW (NT Kernel Logger: EVENT_TRACE_FLAG_DPC | EVENT_TRACE_FLAG_INTERRUPT, PerfInfo GUID \x7bce1db8ac-30e0-47de-8733-86f68e0d63a0\x7d)"
  | unsupportedElevationRequired =>
    "UNSUPPORTED — Administrator elevation required to access NT Kernel Logger"
  | unsupportedSessionInUse =>
    "UNSUPPORTED — NT Kernel Logger session locked by another tool (e.g. WPR)"
  | sessionError => "SESSION_ERROR — Win32 ETW session initialization failed"
  | syntheticTestFixture => "SYNTHETIC TEST FIXTURE (Offline QA / Unit Test Harness)"

/-- The limitation of a session with this status. -/
def limitation : LatencyMeasurementStatus → String
  | realEtwCollected => "Kernel ASLR (KASLR) may obscure routine names if driver query is unprivileged; system-wide kernel trace allows only one active NT Kernel Logger"
  | unsupportedElevationRequired =>
    "Process is not elevated; kernel ETW telemetry could not be collected"
  | unsupportedSessionInUse => "Concurrent kernel trace session active on host system"
  | sessionError => "ETW subsystem returned failure during trace setup"
  | syntheticTestFixture => "Data is generated in-memory for testing and does not represent real kernel hardware performance"

end LatencyMeasurementStatus

/-- `provenance`. -/
def KernelLatencySessionManager.provenance (m : KernelLatencySessionManager F) :
    TelemetryProvenance where
  source := m.measurementStatus.source
  collectionMechanism := m.measurementStatus.mechanism
  timestampSource := "Win32 QueryPerformanceCounter (QPC)"
  unit := "Microseconds (µs)"
  isDirectlyMeasured := m.measurementStatus = .realEtwCollected
  sampleCount := m.counters.totalDpcs + m.counters.totalIsrs
  droppedEvents := 0
  knownLimitations := [m.measurementStatus.limitation]

/-- The recommendation that the status gives rise to. -/
def statusRecommendation (status : LatencyMeasurementStatus) (detail : Option String) :
    List String :=
  match status with
  | .unsupportedElevationRequired => ["ELEVATION REQUIRED: Windows NT Kernel Logger requires full Administrator privileges. Run application as Administrator to capture real-time driver DPC/ISR latencies."]
  | .unsupportedSessionInUse => ["SESSION CONFLICT: Windows NT Kernel Logger is currently active in another session (e.g. Windows Performance Recorder or ETL logger). Stop concurrent kernel traces."]
  | .sessionError =>
    match detail with
    | some detail => [s!"ETW ERROR: {detail}"]
    | none => ["ETW ERROR: Failed to initialize Windows NT Kernel Logger session."]
  | .syntheticTestFixture => ["NOTE: Telemetry collected from offline synthetic test fixture. Not representative of live kernel hardware performance."]
  | .realEtwCollected => []

/-- The recommendation that the longest DPC gives rise to. -/
def dpcRecommendation (maxDpc totalDpcs : UInt64) : List String :=
  if 1000 ≤ maxDpc then ["CRITICAL: System DPC latency exceeds 1000µs. Severe micro-stutter and frame drop hazard during gameplay."]
  else if 500 ≤ maxDpc then ["WARNING: System DPC latency exceeds 500µs. Input processing may experience occasional micro-delays."]
  else if 0 < totalDpcs then ["EXCELLENT: Maximum DPC latency is well under 500µs. System hardware and drivers are optimal for competitive gaming."]
  else []

/-- The recommendation that an offending driver gives rise to. -/
def driverRecommendation (table : CaseTable) (off : DriverLatencyStat F) : List String :=
  let name := String.ofList (table.toLowercase off.driverName.toList)
  let spiked := s!"driver '{off.driverName}' spiked to {off.maxExecutionUs}µs"
  if containsStr name "ndis" || containsStr name "rt640" || containsStr name "e1d" then
    [s!"Network {spiked}: Ensure EEE and Flow Control are disabled via val-opt network module."]
  else if containsStr name "nvlddmkm" || containsStr name "amdkmdag" then
    [s!"GPU {spiked}: Enable MSI (Message Signaled Interrupts) and set Power Management Mode to 'Prefer Maximum Performance'."]
  else if containsStr name "audio" || containsStr name "hdaudbus" then
    [s!"Audio {spiked}: Disable audio DSP/APO enhancements using val-opt Phase 3 optimizer."]
  else if containsStr name "acpi" || containsStr name "wdf01000" then
    [s!"Power management {spiked}: Review BIOS CPU C-States and USB power savings."]
  else []

/-- Whether a status comes with measurements. -/
def LatencyMeasurementStatus.isMeasured : LatencyMeasurementStatus → Bool
  | realEtwCollected | syntheticTestFixture => true
  | _ => false

/-- `generate_report`, where the two rankings read the map in the order of `values`. -/
def generateReport (table : CaseTable) (values : List (DriverLatencyStat F))
    (session : KernelLatencySessionManager F) (durationSecs : F) : LatencyReport F :=
  let offendingDrivers := getOffendingDrivers values
  let topDrivers := getTopDrivers values 10
  let maxDpc := session.counters.maxDpcUs
  let status := session.measurementStatus
  let highestDpcDriver := topDrivers.head?.map (·.driverName)
  { provenance := session.provenance
    status
    totalDpcsCaptured := session.counters.totalDpcs
    totalIsrsCaptured := session.counters.totalIsrs
    highestDpcUs := maxDpc
    highestIsrUs := session.counters.maxIsrUs
    highestDpcDriver
    highestIsrDriver := (topDrivers[1]?.map (·.driverName)).or highestDpcDriver
    offendingDrivers
    topDrivers
    systemSuitableForCompetitive := status.isMeasured && maxDpc < 1000
    recommendations := statusRecommendation status session.statusDetail ++
      if status.isMeasured then
        dpcRecommendation maxDpc session.counters.totalDpcs ++
          offendingDrivers.flatMap (driverRecommendation table)
      else []
    testDurationSecs := durationSecs }

end ValOpt
