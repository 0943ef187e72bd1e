import ValOpt.Benchmarking.Stats
import ValOpt.Optimizations.Guid

/-!
# Capturing frames

`benchmarking/frametimes.rs` and the callback of `benchmarking/etw_capture.rs`: a session of
`EtwFrameCaptureEngine` clears the collector and hands a context to the callback, which makes
samples of the present events.  The collector and the counters are shared with the engine.  Numbers
are exact, as in the statistics.
-/

namespace ValOpt

variable {K : Type}

/-! ### The collector -/

structure FrameCollector (K : Type) where
  samples : List (FrameSample K)
  isRecording : Bool
  totalFramesCaptured : UInt64
  deriving DecidableEq, Repr

namespace FrameCollector

def new : FrameCollector K := ⟨[], false, 0⟩

def start (c : FrameCollector K) : FrameCollector K := { c with isRecording := true }

def stop (c : FrameCollector K) : FrameCollector K := { c with isRecording := false }

/-- `record_sample`. -/
def recordSample (c : FrameCollector K) (sample : FrameSample K) : FrameCollector K :=
  if !c.isRecording then c
  else { c with
    samples := c.samples ++ [sample]
    totalFramesCaptured := c.totalFramesCaptured + 1 }

/-- `clear`. -/
def clear (c : FrameCollector K) : FrameCollector K :=
  { c with samples := [], totalFramesCaptured := 0 }

end FrameCollector

/-! ### The callback -/

/-- What the callback reads of an `EVENT_RECORD`. -/
structure PresentEventRecord where
  providerId : Guid
  id : UInt16
  processId : UInt32
  timeStamp : Int64
  deriving DecidableEq

/-- `DXGI_PROVIDER_GUID`. -/
def dxgiProviderGuid : Guid := .fromU128 0xCA11C03601024A2DA6ADF03CFED5D3C9

/-- `D3D9_PROVIDER_GUID`. -/
def d3d9ProviderGuid : Guid := .fromU128 0x783ACA0A790E4D7F8451AA850511C6B9

/-- `DXGI_PRESENT_START_EVENT_ID`. -/
def dxgiPresentStartEventId : UInt16 := 42

/-- `D3D9_PRESENT_START_EVENT_ID`. -/
def d3d9PresentStartEventId : UInt16 := 1

structure EtwCaptureContext (K : Type) where
  collector : FrameCollector K
  targetPid : Option UInt32
  lastPresentQpc : Int64
  qpcFrequency : Int64
  eventsCaptured : UInt64
  droppedEvents : UInt64
  deriving DecidableEq, Repr

/-- The record is of the target process, if there is one, and of the start of a presentation. -/
def PresentEventRecord.isPresent (rec : PresentEventRecord) (targetPid : Option UInt32) : Bool :=
  targetPid.all (rec.processId = ·) &&
    (rec.providerId = dxgiProviderGuid && rec.id = dxgiPresentStartEventId ||
      rec.providerId = d3d9ProviderGuid && rec.id = d3d9PresentStartEventId)

variable [Field K] [LinearOrder K] [FloorSemiring K]

/-- The milliseconds that so many ticks take. -/
def ticksToMs (qpcFrequency deltaTicks : Int64) : K :=
  (deltaTicks.toInt : K) * 1000 / (qpcFrequency.toInt : K)

/-- The sanity filter. -/
def isSane (frameTimeMs : K) : Bool := 1 / 20 < frameTimeMs && frameTimeMs < 5000

/-- `as u64`, which saturates. -/
def toU64 (x : K) : UInt64 := UInt64.ofNat (min ⌊x⌋₊ (2 ^ 64 - 1))

/-- The sample of a frame. -/
def frameSample (qpcFrequency qpcNow : Int64) (frameIndex : UInt64) (frameTimeMs : K) :
    FrameSample K where
  frameIndex
  timestampUs := toU64 ((qpcNow.toInt : K) * 1000000 / (qpcFrequency.toInt : K))
  msBetweenPresents := frameTimeMs
  msUntilDisplayed := none
  frameTimeMs

/-- `event_record_callback`. -/
def eventRecordCallback (ctx : EtwCaptureContext K) (rec : PresentEventRecord) :
    EtwCaptureContext K :=
  if rec.isPresent ctx.targetPid then
    let qpcNow := rec.timeStamp
    let lastQpc := ctx.lastPresentQpc
    let ctx := { ctx with lastPresentQpc := qpcNow }
    if 0 < lastQpc ∧ lastQpc < qpcNow then
      let frameTimeMs : K := ticksToMs ctx.qpcFrequency (qpcNow - lastQpc)
      if isSane frameTimeMs then
        let frameIdx := ctx.eventsCaptured + 1
        { ctx with
          eventsCaptured := frameIdx
          collector := ctx.collector.recordSample
            (frameSample ctx.qpcFrequency qpcNow frameIdx frameTimeMs) }
      else { ctx with droppedEvents := ctx.droppedEvents + 1 }
    else ctx
  else ctx

/-! ### The engine -/

/-- What a session of `EtwFrameCaptureEngine` leaves to the next one. -/
structure EtwFrameCaptureEngine (K : Type) where
  collector : FrameCollector K
  isActive : Bool
  eventsCaptured : UInt64
  droppedEvents : UInt64
  deriving DecidableEq, Repr

/-- The configuration of `start_real_capture`, and what it gets of the system. -/
structure CaptureStart where
  sessionName : String
  targetPid : Option UInt32
  elevated : Bool
  qpcFrequency : Int64
  startErr : UInt32
  deriving DecidableEq, Repr

/-- One round: the start, the events up to `stop_capture`, and those that are still delivered until
the worker is joined. -/
structure CaptureRound where
  start : CaptureStart
  events : List PresentEventRecord
  late : List PresentEventRecord
  deriving DecidableEq

namespace EtwFrameCaptureEngine

/-- `EtwFrameCaptureEngine::new`. -/
def new : EtwFrameCaptureEngine K := ⟨.new, false, 0, 0⟩

/-- `start_real_capture`: the engine, and the context that it hands to the callback. -/
def startRealCapture (e : EtwFrameCaptureEngine K) (call : CaptureStart) :
    Except String (EtwFrameCaptureEngine K × EtwCaptureContext K) :=
  if e.isActive then .error "ETW capture session is already active"
  else if !call.elevated then .error "Administrator elevation required for ETW real-time session creation. Please run val-opt as Administrator to trace DXGI/D3D presentation events."
  else if call.qpcFrequency ≤ 0 then .error "Failed to query high-resolution hardware performance frequency (QPC)"
  else if call.startErr ≠ 0 then .error s!"StartTraceW failed to create ETW session '{call.sessionName}': Win32 error {call.startErr}"
  else
    let collector := e.collector.clear.start
    .ok ({ e with collector, isActive := true },
      { collector
        targetPid := call.targetPid
        lastPresentQpc := 0
        qpcFrequency := call.qpcFrequency
        eventsCaptured := e.eventsCaptured
        droppedEvents := e.droppedEvents })

/-- A round.  Nothing happens if it is not started. -/
def capture (e : EtwFrameCaptureEngine K) (round : CaptureRound) : EtwFrameCaptureEngine K :=
  match e.startRealCapture round.start with
  | .error _ => e
  | .ok (e, ctx) =>
    let ctx := round.events.foldl eventRecordCallback ctx
    let ctx := round.late.foldl eventRecordCallback { ctx with collector := ctx.collector.stop }
    { e with
      collector := ctx.collector
      isActive := false
      eventsCaptured := ctx.eventsCaptured
      droppedEvents := ctx.droppedEvents }

/-- The provenance of `calculate_metrics_with_env`. -/
def provenance (e : EtwFrameCaptureEngine K) : TelemetryProvenance where
  source := .realEtwPresentation
  collectionMechanism := "Microsoft-Windows-DXGI \x7bCA11C036-0102-4A2D-A6AD-F03CFED5D3C9\x7d (Present_Start Event ID 42), Microsoft-Windows-D3D9 \x7b783ACA0A-790E-4D7F-8451-AA850511C6B9\x7d (Present_Start Event ID 1)"
  timestampSource := "QueryPerformanceCounter (QPC)"
  unit := "Milliseconds (MsBetweenPresents)"
  isDirectlyMeasured := true
  sampleCount := UInt64.ofNat e.collector.samples.length
  droppedEvents := e.droppedEvents
  knownLimitations := [
    "Measures Application Present Cadence (MsBetweenPresents). Does not establish when a frame was actually displayed on the physical display (physical display frame pacing is UNVERIFIED).",
    "Requires Administrator elevation or Performance Log Users group membership to establish real-time ETW session."]

/-- `calculate_metrics_with_env`. -/
def calculateMetricsWithEnv (num : Numerics K) (e : EtwFrameCaptureEngine K) (warmupFrames : ℕ)
    (environment : Option (EnvironmentalTelemetry K)) :
    Option (Except String (ComputedMetrics K)) :=
  computeMetricsWithProvenance num e.collector.samples warmupFrames e.provenance environment

end EtwFrameCaptureEngine

end ValOpt
