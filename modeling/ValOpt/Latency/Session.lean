import ValOpt.Latency.DriverIsolator
import ValOpt.Latency.Monitor
import ValOpt.Optimizations.Guid

/-!
# The kernel latency session

`latency/etw_session.rs`: the counters that the DPCs and ISRs of a session go to, and the session
manager, which starts and stops the trace of the NT Kernel Logger.  The trace is processed by a
worker thread; what it does is an event of its own, and so is every kernel event that reaches the
callback while the trace is processed.
-/

namespace ValOpt

variable {F : Type}

/-! ### Samples -/

/-- What the samples of a session go to. -/
structure LatencyCounters (F : Type) where
  drivers : List LoadedDriver
  stats : DriverStats F
  monitor : LatencyMonitor
  totalDpcs : UInt64
  totalIsrs : UInt64
  maxDpcUs : UInt64
  maxIsrUs : UInt64

/-- The arguments of `ingest_sample`. -/
structure KernelSample where
  timestampUs : UInt64
  durationUs : UInt64
  routineAddress : UInt64
  isDpc : Bool
  deriving DecidableEq, Repr

namespace LatencyCounters

/-- The counters when nothing was measured yet. -/
def cleared (drivers : List LoadedDriver) (monitor : LatencyMonitor) : LatencyCounters F :=
  ⟨drivers, ∅, monitor.clear, 0, 0, 0, 0⟩

/-- `clear_stats`, `clear` and the stores of zero at the start of a session. -/
def clear (c : LatencyCounters F) : LatencyCounters F := .cleared c.drivers c.monitor

/-- `ingest_sample`, of the manager and of the context of the callback alike. -/
def ingestSample (A : Averages F) (c : LatencyCounters F) (x : KernelSample) : LatencyCounters F :=
  let (driverName, stats) := recordExecution A c.drivers c.stats x.routineAddress x.durationUs
  { c with
    totalDpcs := if x.isDpc then c.totalDpcs + 1 else c.totalDpcs
    totalIsrs := if x.isDpc then c.totalIsrs else c.totalIsrs + 1
    maxDpcUs := if x.isDpc && c.maxDpcUs < x.durationUs then x.durationUs else c.maxDpcUs
    maxIsrUs := if !x.isDpc && c.maxIsrUs < x.durationUs then x.durationUs else c.maxIsrUs
    stats
    monitor := c.monitor.ingestSample
      ⟨x.timestampUs, x.durationUs, x.routineAddress, x.isDpc, some driverName⟩ }

end LatencyCounters

/-! ### Kernel events -/

/-- What the callback reads of an `EVENT_RECORD`.  `userData` holds the two words that are read of
it, if it is long enough. -/
structure KernelEventRecord where
  providerId : Guid
  opcode : UInt8
  userData : Option (UInt64 × UInt64)
  timeStamp : UInt64
  deriving DecidableEq, Repr

/-- `PERFINFO_GUID`. -/
def perfInfoGuid : Guid := .fromU128 0xce1db8ac30e047de873386f68e0d63a0

/-- `SYSTEM_TRACE_CONTROL_GUID`. -/
def systemTraceControlGuid : Guid := .fromU128 0x9e814aad320411d29a820060081841cd

/-- `kernel_event_record_callback`: the sample of a record, if it is one.  The products wrap. -/
def kernelEventRecordCallback (qpcFrequency : UInt64) (rec : KernelEventRecord) :
    Option KernelSample :=
  if rec.providerId ≠ perfInfoGuid ∧ rec.providerId ≠ systemTraceControlGuid then none
  else
    let isDpc := rec.opcode = 66 || rec.opcode = 68 || rec.opcode = 69
    let isIsr := rec.opcode = 67
    if !isDpc && !isIsr then none
    else match rec.userData with
      | none => none
      | some (initialTime, routine) =>
        if routine = 0 then none
        else
          let durationTicks :=
            if initialTime < rec.timeStamp then rec.timeStamp - initialTime else 0
          -- the frequency that is handed to the callback is positive
          let durationUs := durationTicks * 1000000 / qpcFrequency
          let timestampUs := rec.timeStamp * 1000000 / qpcFrequency
          if durationUs < 10000000 then some ⟨timestampUs, durationUs, routine, isDpc⟩ else none

/-! ### The manager -/

/-- Where the worker of a session stands. -/
inductive LatencyWorker where
  /-- About to call `OpenTraceW`. -/
  | opening
  /-- In `ProcessTrace`. -/
  | processing
  | exited
  deriving DecidableEq, Repr

/-- `KernelLatencySessionManager`, with its worker thread if there is one to join.  `stopping` says
that `stop_session` waits for it. -/
structure KernelLatencySessionManager (F : Type) where
  counters : LatencyCounters F
  isRunning : Bool
  worker : Option (LatencyWorker × UInt64)
  stopping : Bool
  measurementStatus : LatencyMeasurementStatus
  statusDetail : Option String

/-- The ways in which `start_session` fails. -/
inductive StartFailure where
  | elevation
  /-- `StartTraceW` returned this code. -/
  | startTrace (errCode : UInt32)
  deriving DecidableEq, Repr

/-- The format `{:X}`. -/
def upperHex (n : ℕ) : String := String.ofList ((Nat.toDigits 16 n).map Char.toUpper)

/-- The status and the detail that a failed start leaves. -/
def StartFailure.outcome : StartFailure → LatencyMeasurementStatus × String
  | elevation => (.unsupportedElevationRequired,
      "Administrator elevation required for NT Kernel Logger DPC/ISR ETW tracing.")
  | startTrace errCode =>
    if errCode = 183 then (.unsupportedSessionInUse,
      "NT Kernel Logger is in use by another tracing session (e.g. WPR or performance analyzer).")
    else if errCode = 5 then (.unsupportedElevationRequired,
      "Access denied: Administrator privileges required for NT Kernel Logger.")
    else (.sessionError,
      s!"StartTraceW failed to create NT Kernel Logger session: Win32 error 0x{upperHex errCode.toNat}")

/-- What happens to a manager.  `startFails` and `starts` are the calls of `start_session` on a
manager that is not running. -/
inductive LatencyEvent where
  | startFails (failure : StartFailure)
  | starts (qpcFrequency : UInt64)
  /-- `OpenTraceW` of the worker. -/
  | opens (ok : Bool)
  | kernelEvent (rec : KernelEventRecord)
  /-- A call of `ingest_sample`. -/
  | ingest (sample : KernelSample)
  /-- `ProcessTrace` returns. -/
  | exits
  /-- `stop_session` up to the join. -/
  | stops
  | joins
  /-- `run_synthetic_session`, whose loop makes so many rounds. -/
  | synthetic (rounds : ℕ) (injectSpike : Bool)
  deriving DecidableEq, Repr

namespace KernelLatencySessionManager

/-- `KernelLatencySessionManager::new`. -/
def new (drivers : List LoadedDriver) : KernelLatencySessionManager F :=
  ⟨⟨drivers, ∅, .default, 0, 0, 0, 0⟩, false, none, false, .sessionError, none⟩

/-- The routine that the samples of a round of `run_synthetic_session` name: one of a top driver. -/
def syntheticAddress (drivers : List (DriverLatencyStat F)) (round : ℕ) : UInt64 :=
  match drivers[round % drivers.length]? with
  | some driver => driver.baseAddress + 0x100
  | none => 0xFFFFF80001000000 + 0x100

/-- The samples of one round of `run_synthetic_session`. -/
def syntheticRound (addr : UInt64) (injectSpike : Bool) (sampleCount : UInt64) :
    List KernelSample :=
  let ts := sampleCount * 100
  [⟨ts, 20 + sampleCount % 60, addr, true⟩] ++
    (if sampleCount % 4 = 0 then [⟨ts + 5, 12 + sampleCount % 30, addr, false⟩] else []) ++
    if injectSpike && sampleCount = 5 then [⟨ts + 10, 1250, addr, true⟩] else []

/-- The samples of `run_synthetic_session`, with the drivers that it read before. -/
def syntheticSamples (drivers : List (DriverLatencyStat F)) (rounds : ℕ) (injectSpike : Bool) :
    List KernelSample :=
  (List.range rounds).flatMap fun i =>
    syntheticRound (syntheticAddress drivers (i + 1)) injectSpike (UInt64.ofNat (i + 1))

variable (A : Averages F)

/-- One event.  The methods of a manager do not overlap, and while `stop_session` waits for the
worker none of them is called. -/
def step : LatencyEvent → KernelLatencySessionManager F → Option (KernelLatencySessionManager F)
  | .startFails failure, m =>
    if m.isRunning || m.stopping then none
    else
      let (measurementStatus, err) := failure.outcome
      some { m with measurementStatus, statusDetail := some err }
  | .starts qpcFrequency, m =>
    if m.isRunning || m.stopping || qpcFrequency = 0 then none
    else some { m with
      counters := m.counters.clear
      isRunning := true
      worker := some (.opening, qpcFrequency)
      measurementStatus := .realEtwCollected
      statusDetail := none }
  | .opens ok, m =>
    match m.worker with
    | some (.opening, qpcFrequency) =>
      if ok then some { m with worker := some (.processing, qpcFrequency) }
      else some { m with worker := some (.exited, qpcFrequency), isRunning := false }
    | _ => none
  | .kernelEvent rec, m =>
    match m.worker with
    | some (.processing, qpcFrequency) =>
      match kernelEventRecordCallback qpcFrequency rec with
      | some x => some { m with counters := m.counters.ingestSample A x }
      | none => some m
    | _ => none
  | .ingest sample, m =>
    if m.stopping then none
    else some { m with counters := m.counters.ingestSample A sample }
  | .exits, m =>
    match m.worker with
    | some (.processing, qpcFrequency) =>
      some { m with worker := some (.exited, qpcFrequency), isRunning := false }
    | _ => none
  | .stops, m =>
    if m.stopping then none
    else some { m with isRunning := false, stopping := m.isRunning }
  | .joins, m =>
    match m.worker with
    | some (.exited, _) =>
      if m.stopping then some { m with worker := none, stopping := false } else none
    | _ => none
  | .synthetic rounds injectSpike, m =>
    if m.isRunning || m.stopping then none
    else
      let counters := m.counters.clear
      let drivers := getTopDrivers counters.stats.values 10
      some { m with
        counters := (syntheticSamples drivers rounds injectSpike).foldl
          (LatencyCounters.ingestSample A) counters
        measurementStatus := .syntheticTestFixture
        statusDetail := some "Synthetic test fixture executed for offline QA" }

end KernelLatencySessionManager

end ValOpt
