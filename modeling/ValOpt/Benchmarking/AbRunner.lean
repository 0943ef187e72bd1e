import ValOpt.Benchmarking.Equiv.CaptureRounds
import ValOpt.Benchmarking.Equiv.Metrics
import ValOpt.Benchmarking.Synthetic
import ValOpt.Effect.Basic

/-!
# The A/B runner

`benchmarking/ab_runner.rs`: trials in the order A₁, B₁, A₂, B₂, …, and the comparison of them.  A
live run switches the state of the system before each trial, through a callback of its caller, and
captures the frames of the game; a synthetic run makes the frames up.  An error ends a run at once.
-/

namespace ValOpt

open Effect

/-! ### The state of the host -/

/-- `FILETIME`. -/
structure FileTime where
  dwLowDateTime : UInt32
  dwHighDateTime : UInt32
  deriving DecidableEq, Repr

/-- `filetime_to_u64`. -/
def filetimeToU64 (ft : FileTime) : UInt64 :=
  (ft.dwHighDateTime.toUInt64 <<< 32) ||| ft.dwLowDateTime.toUInt64

/-- What `GetSystemTimes` counts. -/
structure SystemTimes where
  idle : FileTime
  kernel : FileTime
  user : FileTime
  deriving DecidableEq, Repr

/-- What the calls of `sample_environmental_telemetry` are answered; `processes` is the number of
entries that the snapshot of processes gives. -/
structure HostReadings where
  memoryLoad : Option UInt32
  acLineStatus : Option UInt8
  times : Option SystemTimes
  timesAfter : Option SystemTimes
  processes : ℕ
  deriving DecidableEq, Repr

/-- `u64::saturating_sub`. -/
def saturatingSub (a b : UInt64) : UInt64 := if b ≤ a then a - b else 0

variable {K : Type} [Field K] [LinearOrder K] [FloorSemiring K]

/-- The part of the time between two readings in which the processor was not idle, in percent.  The
sum of kernel and user time wraps around. -/
def SystemTimes.utilization (before after : SystemTimes) : K :=
  let idle := saturatingSub (filetimeToU64 after.idle) (filetimeToU64 before.idle)
  let kernel := saturatingSub (filetimeToU64 after.kernel) (filetimeToU64 before.kernel)
  let user := saturatingSub (filetimeToU64 after.user) (filetimeToU64 before.user)
  let total := kernel + user
  if 0 < total ∧ idle ≤ total then
    ((total - idle).toNat : K) / (total.toNat : K) * (100 : ℕ)
  else 0

/-- `f64::round` of a number that is not negative. -/
def roundHalfUp (x : K) : K := (⌊x + 1 / (2 : ℕ)⌋₊ : ℕ)

/-- `sample_environmental_telemetry`. -/
def sampleEnvironmentalTelemetry (host : HostReadings) : EnvironmentalTelemetry K :=
  let cpuUtil : K :=
    match host.times, host.timesAfter with
    | some before, some after => before.utilization after
    | _, _ => 0
  { cpuUtilizationPercent := roundHalfUp (cpuUtil * (10 : ℕ)) / (10 : ℕ)
    memoryLoadPercent := host.memoryLoad.getD 0
    thermalStatus := "WMI / ACPI thermal zones unqueried (hardware-specific kernel driver required)"
    acPowerOnline := host.acLineStatus.map (· = 1)
    activeProcessesCount := UInt32.ofNat host.processes }

/-! ### The runner -/

/-- `ABBenchmarkConfig`, without the duration of a trial: what a trial captures in it is told by
`TrialCapture`. -/
structure ABBenchmarkConfig (K : Type) where
  trials : ℕ
  framesPerTrial : ℕ
  warmupFrames : ℕ
  baselineFps : K
  optimizedFps : K
  targetPid : Option UInt32
  deriving DecidableEq, Repr

/-- `ABBenchmarkConfig::default`. -/
def ABBenchmarkConfig.default : ABBenchmarkConfig K where
  trials := 10
  framesPerTrial := 1000
  warmupFrames := 50
  baselineFps := (230 : ℕ)
  optimizedFps := (255 : ℕ)
  targetPid := none

/-- What a capture session gets of the system: its start, the events until it is stopped, and those
that are delivered until its worker ends. -/
structure TrialCapture where
  elevated : Bool
  qpcFrequency : Int64
  startErr : UInt32
  events : List PresentEventRecord
  late : List PresentEventRecord
  deriving DecidableEq

/-- `capture_duration_blocking`. -/
def EtwFrameCaptureEngine.captureDurationBlocking (num : Numerics K) (e : EtwFrameCaptureEngine K)
    (round : CaptureRound) (warmupFrames : ℕ) (environment : Option (EnvironmentalTelemetry K)) :
    Option (Except String (ComputedMetrics K)) :=
  match e.startRealCapture round.start with
  | .error message => some (.error message)
  | .ok _ => (e.capture round).calculateMetricsWithEnv num warmupFrames environment

/-- Only frames that pass the sanity filter are recorded. -/
theorem isSane_framesFrom (qpcFrequency : Int64) (captured : UInt64) (last : Int64)
    (stamps : List Int64) :
    ∀ f ∈ (framesFrom qpcFrequency captured last stamps : List (FrameSample K)),
      isSane f.frameTimeMs := by
  induction stamps generalizing captured last with
  | nil =>
    intro f hf
    cases hf
  | cons now rest ih =>
    intro f hf
    rw [framesFrom] at hf
    split at hf
    · next h =>
      rcases List.mem_cons.mp hf with rfl | hf
      · exact h.2.2
      · exact ih _ _ f hf
    · exact ih _ _ f hf

omit [Field K] [LinearOrder K] [FloorSemiring K] in
/-- A session that is started was let start. -/
theorem EtwFrameCaptureEngine.starts_of_ok {e : EtwFrameCaptureEngine K} {round : CaptureRound}
    {p : EtwFrameCaptureEngine K × EtwCaptureContext K}
    (h : e.startRealCapture round.start = .ok p) : round.Starts := by
  unfold startRealCapture at h
  split_ifs at h with hactive helevated hfreq herr
  rw [Bool.not_eq_true, Bool.not_eq_false'] at helevated
  exact ⟨helevated, Int64.not_le.mp hfreq, not_not.mp herr⟩

section Positive

variable [IsStrictOrderedRing K]

omit [FloorSemiring K] in
theorem isSane_pos {t : K} (h : isSane t) : 0 < t := by
  rw [isSane, Bool.and_eq_true, decide_eq_true_eq] at h
  exact lt_trans (by norm_num) h.1

/-- A trial on samples with positive frame times divides by no zero. -/
theorem computeMetrics_isSome (num : Numerics K) {samples : List (FrameSample K)}
    (hpos : ∀ s ∈ samples, 0 < s.frameTimeMs) (warmupFrames : ℕ)
    (provenance : TelemetryProvenance) (environment : Option (EnvironmentalTelemetry K)) :
    (computeMetricsWithProvenance num samples warmupFrames provenance environment).isSome := by
  by_cases hwarmup : warmupFrames < samples.length
  · obtain ⟨m, hm, -⟩ := metrics_ordered num hpos hwarmup provenance environment
    rw [hm]
    rfl
  · rw [computeMetricsWithProvenance, if_pos (Nat.not_lt.mp hwarmup)]
    rfl

/-- A session that was started divides by no zero either. -/
theorem captureDurationBlocking_isSome (num : Numerics K) {e : EtwFrameCaptureEngine K}
    (hidle : e.isActive = false) (round : CaptureRound) (warmupFrames : ℕ)
    (environment : Option (EnvironmentalTelemetry K)) :
    (e.captureDurationBlocking num round warmupFrames environment).isSome := by
  rw [EtwFrameCaptureEngine.captureDurationBlocking]
  by_cases hstarts : round.Starts
  · rw [EtwFrameCaptureEngine.startRealCapture_ok hidle hstarts]
    apply computeMetrics_isSome num
    intro s hs
    rw [(EtwFrameCaptureEngine.capture_eq hidle hstarts).2.1] at hs
    exact isSane_pos (isSane_framesFrom _ _ _ _ s hs)
  · split
    · rfl
    · next hstart => exact absurd (EtwFrameCaptureEngine.starts_of_ok hstart) hstarts

/-! ### The live run -/

/-- The calls of a live run, with the number of the trial and its state. -/
inductive BenchCall where
  | elevation
  | applyState (trial : ℕ) (isOptimized : Bool)
  | settle (trial : ℕ) (isOptimized : Bool)
  | telemetry (trial : ℕ) (isOptimized : Bool)
  | capture (trial : ℕ) (isOptimized : Bool)
  deriving DecidableEq, Repr

/-- The callback of a live run, and what its trials read of the host and capture. -/
structure LiveBench (σ : Type) where
  applyState : Bool → Op σ Unit
  host : ℕ → Bool → HostReadings
  captured : ℕ → Bool → TrialCapture

/-- The name of the session of a trial. -/
def sessionName (trial : ℕ) (isOptimized : Bool) : String :=
  if isOptimized then s!"ValOptAB_B_{trial}" else s!"ValOptAB_A_{trial}"

variable {σ : Type}

/-- The round that a trial captures. -/
def LiveBench.round (bench : LiveBench σ) (targetPid : Option UInt32) (trial : ℕ)
    (isOptimized : Bool) : CaptureRound :=
  let captured := bench.captured trial isOptimized
  { start := {
      sessionName := sessionName trial isOptimized
      targetPid
      elevated := captured.elevated
      qpcFrequency := captured.qpcFrequency
      startErr := captured.startErr }
    events := captured.events
    late := captured.late }

/-- What `capture_duration_blocking` returns to a trial, which has an engine of its own. -/
def LiveBench.trialMetrics (bench : LiveBench σ) (num : Numerics K) (config : ABBenchmarkConfig K)
    (trial : ℕ) (isOptimized : Bool) : Except String (ComputedMetrics K) :=
  (EtwFrameCaptureEngine.new.captureDurationBlocking num
    (bench.round config.targetPid trial isOptimized) config.warmupFrames
    (some (sampleEnvironmentalTelemetry (bench.host trial isOptimized)))).get
      (captureDurationBlocking_isSome num rfl _ _ _)

/-- One trial.  The sleep, the sampling and the capture report no error as calls. -/
def runTrial (bench : LiveBench σ) (num : Numerics K) (config : ABBenchmarkConfig K) (trial : ℕ)
    (isOptimized : Bool) : Eff BenchCall σ (Except String (ComputedMetrics K)) := do
  match ← perform (.applyState trial isOptimized) (bench.applyState isOptimized) with
  | .error e => return .error e
  | .ok () =>
    let _ ← perform (.settle trial isOptimized) (.read fun _ => some ())
    let _ ← perform (.telemetry trial isOptimized) (.read fun _ => some ())
    let _ ← perform (.capture trial isOptimized) (.read fun _ => some ())
    return bench.trialMetrics num config trial isOptimized

/-- The loop of `run_live_etw_benchmark`, from a trial on. -/
def runTrials (bench : LiveBench σ) (num : Numerics K) (config : ABBenchmarkConfig K) :
    (trial left : ℕ) → (baselineRuns optimizedRuns : List (ComputedMetrics K)) →
      Eff BenchCall σ (Except String (List (ComputedMetrics K) × List (ComputedMetrics K)))
  | _, 0, baselineRuns, optimizedRuns => return .ok (baselineRuns, optimizedRuns)
  | trial, left + 1, baselineRuns, optimizedRuns => do
    match ← runTrial bench num config trial false with
    | .error e => return .error e
    | .ok metricsA =>
      match ← runTrial bench num config trial true with
      | .error e => return .error e
      | .ok metricsB =>
        runTrials bench num config (trial + 1) left (baselineRuns ++ [metricsA])
          (optimizedRuns ++ [metricsB])

/-- `compare_ab_trials` of the trials as they were computed. -/
def compareTrials (num : Numerics K) (rng : Generator)
    (baselineRuns optimizedRuns : List (ComputedMetrics K)) :
    Except String (ABComparisonReport K) :=
  compareAbTrials num rng (baselineRuns.map (·.toBenchmarkMetrics))
    (optimizedRuns.map (·.toBenchmarkMetrics))

/-- `run_live_etw_benchmark`. -/
def runLiveEtwBenchmark (bench : LiveBench σ) (num : Numerics K) (rng : Generator)
    (config : ABBenchmarkConfig K) : Eff BenchCall σ (Except String (ABComparisonReport K)) := do
  match ← perform .elevation (.read fun _ => some ()) with
  | .error _ =>
    return .error "Administrator elevation required for live Windows ETW benchmark capture."
  | .ok () =>
    match ← runTrials bench num config 1 config.trials [] [] with
    | .error e => return .error e
    | .ok (baselineRuns, optimizedRuns) => return compareTrials num rng baselineRuns optimizedRuns

end Positive

/-! ### The synthetic run -/

/-- The application of the baseline trials, and that of the optimized ones. -/
def mockApp (config : ABBenchmarkConfig K) (isOptimized : Bool) : MockDirectXApp K :=
  if isOptimized then
    ((MockDirectXApp.new config.optimizedFps).withStutters 400
      (((833 : ℕ) : K) / (100 : ℕ))).withVirtualTime true
  else
    ((MockDirectXApp.new config.baselineFps).withStutters 150
      (((1666 : ℕ) : K) / (100 : ℕ))).withVirtualTime true

/-- One trial of made-up frames. -/
def syntheticTrial (num : Numerics K) (config : ABBenchmarkConfig K) (clock : QpcClock)
    (host : HostReadings) (isOptimized : Bool) : Option (Except String (ComputedMetrics K)) := do
  let collector ← (mockApp config isOptimized).runFrames clock config.framesPerTrial
    (fun sample collector => collector.recordSample sample) FrameCollector.new.start
  let snapshot := collector.stop.snapshot
  computeMetricsWithProvenance num snapshot config.warmupFrames
    (.synthetic (UInt64.ofNat snapshot.length)) (some (sampleEnvironmentalTelemetry host))

/-- The loop of `run_synthetic_benchmark`, from a trial on. -/
def syntheticTrials (num : Numerics K) (config : ABBenchmarkConfig K) (clock : QpcClock)
    (host : ℕ → Bool → HostReadings) :
    (trial left : ℕ) → (baselineRuns optimizedRuns : List (ComputedMetrics K)) →
      Option (Except String (List (ComputedMetrics K) × List (ComputedMetrics K)))
  | _, 0, baselineRuns, optimizedRuns => some (.ok (baselineRuns, optimizedRuns))
  | trial, left + 1, baselineRuns, optimizedRuns => do
    match ← syntheticTrial num config clock (host trial false) false with
    | .error e => some (.error e)
    | .ok metricsA =>
      match ← syntheticTrial num config clock (host trial true) true with
      | .error e => some (.error e)
      | .ok metricsB =>
        syntheticTrials num config clock host (trial + 1) left (baselineRuns ++ [metricsA])
          (optimizedRuns ++ [metricsB])

/-- `run_synthetic_benchmark`; there is no result if a divisor is zero. -/
def runSyntheticBenchmark (num : Numerics K) (rng : Generator) (config : ABBenchmarkConfig K)
    (clock : QpcClock) (host : ℕ → Bool → HostReadings) :
    Option (Except String (ABComparisonReport K)) := do
  match ← syntheticTrials num config clock host 1 config.trials [] [] with
  | .error e => some (.error e)
  | .ok (baselineRuns, optimizedRuns) => some (compareTrials num rng baselineRuns optimizedRuns)

end ValOpt
