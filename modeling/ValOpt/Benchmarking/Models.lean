import Mathlib.Algebra.Order.Field.Basic
import ValOpt.Ipc.Message

/-!
# Benchmark data

`benchmarking/models.rs`: what is known of one benchmark trial, and the report that compares two
lists of them.  Numbers are exact: `K` is an ordered field in place of `f64`.  The values that `f64`
has beside the numbers arise where a divisor can be zero, and these results are `Extended`.
-/

namespace ValOpt

/-! ### Exact numbers -/

/-- A number, or one of the results that `f64` has for a zero divisor. -/
inductive Extended (K : Type) where
  | finite (x : K)
  | infinity
  | negInfinity
  | nan
  deriving DecidableEq, Repr

namespace Extended

variable {K : Type} [Field K] [LinearOrder K]

/-- `x / y`, where a zero divisor counts as `+0`. -/
def div (x y : K) : Extended K :=
  if y ≠ 0 then finite (x / y)
  else if 0 < x then infinity
  else if x < 0 then negInfinity
  else nan

/-- `self * c`, for a positive number. -/
def scale (c : K) : Extended K → Extended K
  | finite x => finite (x * c)
  | e => e

/-- `self < c`. -/
def lt (c : K) : Extended K → Bool
  | finite x => x < c
  | negInfinity => true
  | infinity | nan => false

/-- `self > c`. -/
def gt (c : K) : Extended K → Bool
  | finite x => c < x
  | infinity => true
  | negInfinity | nan => false

/-- `self >= c`. -/
def ge (c : K) : Extended K → Bool
  | finite x => c ≤ x
  | infinity => true
  | negInfinity | nan => false

end Extended

/-! ### Trials and reports -/

/-- `TelemetryProvenance::default`. -/
def TelemetryProvenance.default : TelemetryProvenance where
  source := .realEtwPresentation
  collectionMechanism := "Microsoft-Windows-DXGI \x7bCA11C036-0102-4A2D-A6AD-F03CFED5D3C9\x7d (Present_Start Event ID 42)"
  timestampSource := "QueryPerformanceCounter (QPC)"
  unit := "Milliseconds (MsBetweenPresents)"
  isDirectlyMeasured := true
  sampleCount := 0
  droppedEvents := 0
  knownLimitations := [
    "Measures Application Present Cadence (MsBetweenPresents). Does not establish when a frame was actually displayed on the physical display (physical display frame pacing is UNVERIFIED).",
    "Requires Administrator elevation or Performance Log Users group membership to establish real-time ETW session."]

/-- The provenance of the trials of `run_synthetic_benchmark`. -/
def TelemetryProvenance.synthetic (sampleCount : UInt64) : TelemetryProvenance where
  source := .syntheticFixture
  collectionMechanism := "MockDirectXApp (Synthetic Frame Generator)"
  timestampSource := "Virtual QPC Simulation"
  unit := "Milliseconds"
  isDirectlyMeasured := false
  sampleCount
  droppedEvents := 0
  knownLimitations := ["Synthetic test fixture; not real graphics presentation telemetry"]

variable (K : Type)

/-- The state of the system during a trial. -/
structure EnvironmentalTelemetry where
  cpuUtilizationPercent : K
  memoryLoadPercent : UInt32
  thermalStatus : String
  acPowerOnline : Option Bool
  activeProcessesCount : UInt32

/-- The statistics of one trial, as far as a comparison reads them. -/
structure BenchmarkMetrics where
  provenance : TelemetryProvenance
  environment : Option (EnvironmentalTelemetry K)
  avgFps : K
  onePercentLowFps : K
  zeroPointOnePercentLowFps : K
  frameTimeStdDevMs : K

/-- One frame that was presented. -/
structure FrameSample where
  frameIndex : UInt64
  timestampUs : UInt64
  msBetweenPresents : K
  msUntilDisplayed : Option K
  frameTimeMs : K
  deriving DecidableEq, Repr

/-- The statistics of one trial, as `compute_metrics` makes them. -/
structure ComputedMetrics extends BenchmarkMetrics K where
  totalFrames : ℕ
  durationSeconds : K
  minFps : K
  maxFps : K
  frameTimeMeanMs : K
  p50FrameTimeMs : K
  p90FrameTimeMs : K
  p95FrameTimeMs : K
  p99FrameTimeMs : K
  p99_9FrameTimeMs : K
  stutterCount1_5x : ℕ
  stutterCount2_0x : ℕ

/-- The comparison of baseline and optimized trials. -/
structure ABComparisonReport where
  baselineLabel : String
  optimizedLabel : String
  trialsCount : ℕ
  provenance : TelemetryProvenance
  environment : Option (EnvironmentalTelemetry K)
  baselineAvgFps : K
  optimizedAvgFps : K
  deltaAvgFpsPercent : Extended K
  baselineOnePercentLow : K
  optimizedOnePercentLow : K
  deltaOnePercentLowPercent : Extended K
  baselineZeroOnePercentLow : K
  optimizedZeroOnePercentLow : K
  deltaZeroOnePercentLowPercent : Extended K
  baselinePacingStdDev : K
  optimizedPacingStdDev : K
  deltaPacingStdDevPercent : Extended K
  tStatistic : Extended K
  degreesOfFreedom : K
  pValue : Extended K
  pairedTStat : Extended K
  pairedPValue : Extended K
  cohensD : Extended K
  mannWhitneyUStat : K
  mannWhitneyPValue : K
  bootstrapOnePercentCi : K × K
  leveneFStat : K
  levenePValue : Extended K
  isVarianceSignificantlyReduced : Bool
  isStatisticallySignificant : Bool
  meetsThreshold : Bool
  recommendation : String

end ValOpt
