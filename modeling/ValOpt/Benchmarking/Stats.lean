import Mathlib.Algebra.Order.Floor.Semiring
import Mathlib.Data.List.Sort
import Mathlib.Data.List.TakeWhile
import ValOpt.Benchmarking.Models
import ValOpt.Statistics.Basic

/-!
# The statistics of trials

`benchmarking/stats.rs`: percentiles, the metrics of a trial, the tests of two lists of trials, the
bootstrap interval of the paired percentage deltas, and `compare_ab_trials`, which makes a verdict
of them.
-/

namespace ValOpt

/-- The functions that a field does not have, and the format of the numbers in a text. -/
structure Numerics (K : Type) [Zero K] [LT K] where
  sqrt : K → K
  sqrt_zero : sqrt 0 = 0
  sqrt_pos {x : K} : 0 < x → 0 < sqrt x
  /-- `regularized_incomplete_beta`, which makes a p-value of a statistic. -/
  regularizedIncompleteBeta : K → K → K → Extended K
  standardNormalCdf : K → K
  /-- `{:.2}` of a number. -/
  toFixed2 : Extended K → String

/-- A source of random numbers: the state it starts in, and the next number with the state after. -/
structure Generator where
  State : Type
  seed : State
  next : State → UInt64 × State

/-- The generator of the bootstrap: Xorshift64 with a fixed seed. -/
def xorshift64 : Generator where
  State := UInt64
  seed := 0x9E3779B97F4A7C15
  next s :=
    let s := s ^^^ (s <<< 13)
    let s := s ^^^ (s >>> 7)
    let s := s ^^^ (s <<< 17)
    (s, s)

variable {K : Type} [Field K] [LinearOrder K] [FloorSemiring K]

/-! ### Percentiles -/

/-- `calculate_percentile` of a sorted list. -/
def calculatePercentile (sortedData : List K) (percentile : K) : K :=
  let n := sortedData.length
  if n = 0 then 0
  else if n = 1 then sortedData.getD 0 0
  else
    let p := max 0 (min percentile 100)
    let rank := p / 100 * (n - 1 : ℕ)
    let lowIdx := ⌊rank⌋₊
    let highIdx := min (lowIdx + 1) (n - 1)
    let frac := rank - lowIdx
    sortedData.getD lowIdx 0 + frac * (sortedData.getD highIdx 0 - sortedData.getD lowIdx 0)

/-! ### The metrics of a trial -/

/-- A quotient; there is none if the divisor is zero. -/
def divide (x y : K) : Option K := if y = 0 then none else some (x / y)

/-- The frames per second at a frame time, `0` if it is not positive. -/
def fpsOf (frameTimeMs : K) : K := if 0 < frameTimeMs then 1000 / frameTimeMs else 0

/-- `compute_metrics_with_provenance`; there is no result if a divisor is zero. -/
def computeMetricsWithProvenance (num : Numerics K) (samples : List (FrameSample K))
    (warmupFrames : ℕ) (provenance : TelemetryProvenance)
    (environment : Option (EnvironmentalTelemetry K)) :
    Option (Except String (ComputedMetrics K)) :=
  if samples.length ≤ warmupFrames then
    some (.error s!"Insufficient samples: total {samples.length} frames, but warmup required {warmupFrames}")
  else
    let activeSamples := samples.drop warmupFrames
    let totalFrames := activeSamples.length
    let frameTimes := activeSamples.map (·.frameTimeMs)
    if frameTimes = [] then some (.error "No active frame times available for analysis")
    else do
      let totalDurationMs := frameTimes.sum
      let durationSeconds := totalDurationMs / 1000
      let avgFps ← divide (totalFrames : K) durationSeconds
      let frameTimeMeanMs ← divide totalDurationMs (totalFrames : K)
      let variance ←
        if 1 < totalFrames then
          divide (frameTimes.map fun t => (t - frameTimeMeanMs) ^ 2).sum ((totalFrames - 1 : ℕ) : K)
        else some 0
      let frameTimes := frameTimes.mergeSort (· ≤ ·)
      let minFt := frameTimes.getD 0 0
      let maxFt := frameTimes.getD (totalFrames - 1) 0
      let p99FrameTimeMs := calculatePercentile frameTimes 99
      let p99_9FrameTimeMs := calculatePercentile frameTimes (999 / 10)
      let threshold1_5x := frameTimeMeanMs * (3 / 2)
      let threshold2_0x := frameTimeMeanMs * 2
      some (.ok
        { provenance
          environment
          totalFrames
          durationSeconds
          avgFps
          onePercentLowFps := fpsOf p99FrameTimeMs
          zeroPointOnePercentLowFps := fpsOf p99_9FrameTimeMs
          minFps := fpsOf maxFt
          maxFps := fpsOf minFt
          frameTimeMeanMs
          frameTimeStdDevMs := num.sqrt variance
          p50FrameTimeMs := calculatePercentile frameTimes 50
          p90FrameTimeMs := calculatePercentile frameTimes 90
          p95FrameTimeMs := calculatePercentile frameTimes 95
          p99FrameTimeMs
          p99_9FrameTimeMs
          stutterCount1_5x := (frameTimes.filter (threshold1_5x ≤ ·)).length
          stutterCount2_0x := (frameTimes.filter (threshold2_0x ≤ ·)).length })

/-- `compute_metrics`. -/
def computeMetrics (num : Numerics K) (samples : List (FrameSample K)) (warmupFrames : ℕ) :
    Option (Except String (ComputedMetrics K)) :=
  computeMetricsWithProvenance num samples warmupFrames .default none

/-! ### The t-tests -/

/-- The mean. -/
def mean (sample : List K) : K := sample.sum / sample.length

/-- The variance, with `n - 1`. -/
def variance (sample : List K) : K :=
  (sample.map fun x => (x - mean sample) ^ 2).sum / (sample.length - 1)

section PValues

-- `M` is what the computation of a p-value may do besides: nothing, or run out of stack
variable {M : Type → Type} [Monad M]

/-- `compute_t_distribution_two_tailed_p`, given the incomplete beta function. -/
def tDistributionP (beta : K → K → K → M (Extended K)) (t df : K) : M (Extended K) :=
  if df ≤ 0 then pure (.finite 1) else beta (df / 2) (1 / 2) (df / (df + t ^ 2))

/-- `welch_t_test`, given the p-value of a statistic: the statistic, the degrees of freedom and the
p-value. -/
def welchTTestWith (num : Numerics K) (pValue : K → K → M (Extended K)) (sampleA sampleB : List K) :
    M (Except String (Extended K × K × Extended K)) :=
  let n1 : K := sampleA.length
  let n2 : K := sampleB.length
  if sampleA.length < 2 ∨ sampleB.length < 2 then
    pure (.error
      s!"Welch's t-test requires at least 2 samples per group, got {sampleA.length} and {sampleB.length}")
  else
    let mean1 := mean sampleA
    let mean2 := mean sampleB
    let se1 := variance sampleA / n1
    let se2 := variance sampleB / n2
    let seDiff := num.sqrt (se1 + se2)
    if seDiff ≤ 1 / 10 ^ 12 then
      if |mean1 - mean2| < 1 / 10 ^ 12 then pure (.ok (.finite 0, n1 + n2 - 2, .finite 1))
      else pure (.ok (.infinity, n1 + n2 - 2, .finite 0))
    else do
      let tStat := (mean2 - mean1) / seDiff
      let df := (se1 + se2) ^ 2 / (se1 ^ 2 / (n1 - 1) + se2 ^ 2 / (n2 - 1))
      let p ← pValue |tStat| df
      pure (.ok (.finite tStat, df, p))

/-- `paired_t_test`, given the p-value of a statistic: the statistic, the degrees of freedom and the
p-value. -/
def pairedTTestWith (num : Numerics K) (pValue : K → K → M (Extended K))
    (sampleA sampleB : List K) : M (Except String (Extended K × K × Extended K)) :=
  let n := sampleA.length
  if n ≠ sampleB.length then
    pure (.error s!"Paired t-test requires equal sample sizes, got {n} and {sampleB.length}")
  else if n < 2 then pure (.error s!"Paired t-test requires at least 2 pairs, got {n}")
  else
    let diffs := List.zipWith (fun b a => b - a) sampleB sampleA
    let meanDiff := diffs.sum / n
    let df : K := (n - 1 : ℕ)
    let varDiff := (diffs.map fun d => (d - meanDiff) ^ 2).sum / df
    let seDiff := num.sqrt (varDiff / n)
    if seDiff ≤ 1 / 10 ^ 12 then
      if |meanDiff| < 1 / 10 ^ 12 then pure (.ok (.finite 0, df, .finite 1))
      else pure (.ok (.infinity, df, .finite 0))
    else do
      let tStat := meanDiff / seDiff
      let p ← pValue |tStat| df
      pure (.ok (.finite tStat, df, p))

end PValues

/-- `compute_t_distribution_two_tailed_p`. -/
def computeTDistributionTwoTailedP (num : Numerics K) (t df : K) : Extended K :=
  tDistributionP (M := Id) num.regularizedIncompleteBeta t df

/-- `welch_t_test`. -/
def welchTTest (num : Numerics K) (sampleA sampleB : List K) :
    Except String (Extended K × K × Extended K) :=
  welchTTestWith (M := Id) num (computeTDistributionTwoTailedP num) sampleA sampleB

/-- `paired_t_test`. -/
def pairedTTest (num : Numerics K) (sampleA sampleB : List K) :
    Except String (Extended K × K × Extended K) :=
  pairedTTestWith (M := Id) num (computeTDistributionTwoTailedP num) sampleA sampleB

/-- `compute_cohens_d`. -/
def computeCohensD (num : Numerics K) (sampleA sampleB : List K) : Extended K :=
  let n1 : K := sampleA.length
  let n2 : K := sampleB.length
  if sampleA.length < 2 ∨ sampleB.length < 2 then .finite 0
  else
    let mean1 := mean sampleA
    let mean2 := mean sampleB
    let pooledVar := ((n1 - 1) * variance sampleA + (n2 - 1) * variance sampleB) / (n1 + n2 - 2)
    let pooledSd := num.sqrt pooledVar
    if pooledSd ≤ 1 / 10 ^ 12 then
      if |mean2 - mean1| < 1 / 10 ^ 12 then .finite 0
      else if mean1 < mean2 then .infinity
      else .negInfinity
    else .finite ((mean2 - mean1) / pooledSd)

/-! ### The Mann-Whitney test -/

/-- The loop over the groups of ties, from an index on: the ranks and the correction for ties. -/
def midRanks (nTotal i : ℕ) : List (K × Fin 2) → List K × K
  | [] => ([], 0)
  | x :: rest =>
    let tied := rest.takeWhile fun y => |y.1 - x.1| < 1 / 10 ^ 12
    let j := i + 1 + tied.length
    let tieCount : K := (j - i : ℕ)
    let avgRank : K := (i + 1 + j : ℕ) / 2
    let term := if 1 < tieCount then (tieCount ^ 3 - tieCount) / (nTotal * (nTotal - 1)) else 0
    let (ranks, tieSum) := midRanks nTotal j (rest.dropWhile fun y => |y.1 - x.1| < 1 / 10 ^ 12)
    (List.replicate (j - i) avgRank ++ ranks, term + tieSum)
  termination_by combined => combined.length
  decreasing_by exact Nat.lt_succ_of_le (List.length_dropWhile_le _ rest)

/-- `mann_whitney_u_test`: the statistic and the p-value. -/
def mannWhitneyUTest (num : Numerics K) (sampleA sampleB : List K) : Except String (K × K) :=
  let n1 := sampleA.length
  let n2 := sampleB.length
  if n1 < 2 ∨ n2 < 2 then
    .error s!"Mann-Whitney U requires >= 2 samples per group, got {n1} and {n2}"
  else
    let nTotal := n1 + n2
    let combined := (sampleA.map (·, (0 : Fin 2)) ++ sampleB.map (·, 1)).mergeSort (·.1 ≤ ·.1)
    let (ranks, tieSum) := midRanks nTotal 0 combined
    let rankSumA :=
      (List.zipWith (fun x rank => if x.2 = 0 then rank else 0) combined ranks).sum
    let u1 := (n1 : K) * n2 + n1 * (n1 + 1) / 2 - rankSumA
    let u2 := (n1 : K) * n2 - u1
    let u := min u1 u2
    let muU := (n1 : K) * n2 / 2
    let varU := (n1 : K) * n2 / 12 * (nTotal + 1 - tieSum)
    if varU ≤ 1 / 10 ^ 12 then .ok (u, if |u - muU| < 1 / 10 ^ 12 then 1 else 0)
    else
      let sigmaU := num.sqrt varU
      let z :=
        if u < muU then (u - muU + 1 / 2) / sigmaU
        else if muU < u then (u - muU - 1 / 2) / sigmaU
        else 0
      .ok (u, max 0 (min (2 * (1 - num.standardNormalCdf |z|)) 1))

/-! ### The bootstrap interval -/

/-- The inner loop of a resampling: the sums over the pairs drawn, and the state of the
generator. -/
def resample (rng : Generator) (sampleA sampleB : List K) :
    ℕ → K → K → rng.State → K × K × rng.State
  | 0, sumA, sumB, state => (sumA, sumB, state)
  | draws + 1, sumA, sumB, state =>
    let (random, state) := rng.next state
    let idx := random.toNat % sampleA.length
    resample rng sampleA sampleB draws (sumA + sampleA.getD idx 0) (sumB + sampleB.getD idx 0) state

/-- The outer loop: the percentage deltas of the resampled means, where the mean is positive. -/
def resampledDeltas (rng : Generator) (sampleA sampleB : List K) : ℕ → rng.State → List K
  | 0, _ => []
  | resamples + 1, state =>
    let n := sampleA.length
    let (sumA, sumB, state) := resample rng sampleA sampleB n 0 0 state
    let meanA := sumA / n
    let meanB := sumB / n
    if 0 < meanA then
      (meanB - meanA) / meanA * 100 :: resampledDeltas rng sampleA sampleB resamples state
    else resampledDeltas rng sampleA sampleB resamples state

/-- `bootstrap_paired_percentage_delta_ci`. -/
def bootstrapPairedPercentageDeltaCi (rng : Generator) (sampleA sampleB : List K) (resamples : ℕ)
    (confidenceLevel : K) : Except String (K × K) :=
  let n := sampleA.length
  if n ≠ sampleB.length then
    .error s!"Paired bootstrap requires equal sample sizes, got {n} and {sampleB.length}"
  else if n < 2 then .error s!"Paired bootstrap requires at least 2 pairs, got {n}"
  else
    let deltas := resampledDeltas rng sampleA sampleB resamples rng.seed
    if deltas = [] then .ok (0, 0)
    else
      let sorted := deltas.mergeSort (· ≤ ·)
      let alpha := 1 - confidenceLevel
      .ok (calculatePercentile sorted (alpha / 2 * 100),
        calculatePercentile sorted ((1 - alpha / 2) * 100))

/-! ### Levene's test -/

/-- `levene_variance_test`, given the p-value of a statistic: the statistic and the p-value. -/
def leveneVarianceTestWith {M : Type → Type} [Monad M] (num : Numerics K)
    (pValue : K → K → M (Extended K)) (sampleA sampleB : List K) :
    M (Except String (K × Extended K)) :=
  let n1 := sampleA.length
  let n2 := sampleB.length
  if n1 < 2 ∨ n2 < 2 then
    pure (.error s!"Levene test requires >= 2 samples per group, got {n1} and {n2}")
  else
    let medA := calculatePercentile (sampleA.mergeSort (· ≤ ·)) 50
    let medB := calculatePercentile (sampleB.mergeSort (· ≤ ·)) 50
    let z1 := sampleA.map fun x => |x - medA|
    let z2 := sampleB.map fun x => |x - medB|
    let meanZ1 := z1.sum / n1
    let meanZ2 := z2.sum / n2
    let overallMeanZ := (z1.sum + z2.sum) / (n1 + n2 : ℕ)
    let ssBetween := n1 * (meanZ1 - overallMeanZ) ^ 2 + n2 * (meanZ2 - overallMeanZ) ^ 2
    let ssWithin := (z1.map fun z => (z - meanZ1) ^ 2).sum + (z2.map fun z => (z - meanZ2) ^ 2).sum
    let dfBetween : K := 1
    let dfWithin : K := (n1 + n2 - 2 : ℕ)
    if ssWithin ≤ 1 / 10 ^ 12 then
      pure (.ok (0, .finite (if ssBetween < 1 / 10 ^ 12 then 1 else 0)))
    else do
      let fStat := ssBetween / dfBetween / (ssWithin / dfWithin)
      let p ← pValue (num.sqrt fStat) dfWithin
      pure (.ok (fStat, p))

/-- `levene_variance_test`. -/
def leveneVarianceTest (num : Numerics K) (sampleA sampleB : List K) :
    Except String (K × Extended K) :=
  leveneVarianceTestWith (M := Id) num (computeTDistributionTwoTailedP num) sampleA sampleB

/-! ### The verdict -/

/-- `((optimized - baseline) / baseline) * 100.0`. -/
def deltaPercent (baseline optimized : K) : Extended K :=
  (Extended.div (optimized - baseline) baseline).scale 100

/-- The text of the verdict. -/
def recommend (num : Numerics K) (meetsThreshold isStatisticallySignificant : Bool)
    (delta cohensD : Extended K) : String :=
  if meetsThreshold then
    s!"ACCEPTED — Statistically significant performance improvement confirmed (p < 0.01, Delta >= 3.0%, Cohen's d = {num.toFixed2 cohensD})"
  else if isStatisticallySignificant && delta.gt 0 then
    s!"BORDERLINE — Statistically significant but under 3.0% practical significance threshold (Delta = +{num.toFixed2 delta}%, Cohen's d = {num.toFixed2 cohensD})"
  else if delta.lt (-1) then "REJECTED — Optimization caused performance regression"
  else "REJECTED (Placebo / Statistically Insignificant) — Failed significance test or CI includes zero"

/-- `compare_ab_trials`. -/
def compareAbTrials (num : Numerics K) (rng : Generator)
    (baselineRuns optimizedRuns : List (BenchmarkMetrics K)) :
    Except String (ABComparisonReport K) := do
  if baselineRuns.isEmpty || optimizedRuns.isEmpty then
    throw "Cannot compare empty benchmark trial sets"
  let n := min baselineRuns.length optimizedRuns.length
  let base1p := baselineRuns.map (·.onePercentLowFps)
  let opt1p := optimizedRuns.map (·.onePercentLowFps)
  let basePacing := baselineRuns.map (·.frameTimeStdDevMs)
  let optPacing := optimizedRuns.map (·.frameTimeStdDevMs)
  let baselineAvgFps := mean (baselineRuns.map (·.avgFps))
  let optimizedAvgFps := mean (optimizedRuns.map (·.avgFps))
  let baselineOnePercentLow := mean base1p
  let optimizedOnePercentLow := mean opt1p
  let baselineZeroOnePercentLow := mean (baselineRuns.map (·.zeroPointOnePercentLowFps))
  let optimizedZeroOnePercentLow := mean (optimizedRuns.map (·.zeroPointOnePercentLowFps))
  let baselinePacingStdDev := mean basePacing
  let optimizedPacingStdDev := mean optPacing
  let deltaAvgFpsPercent := deltaPercent baselineAvgFps optimizedAvgFps
  let deltaOnePercentLowPercent := deltaPercent baselineOnePercentLow optimizedOnePercentLow
  let (pairedTStat, _, pairedPValue) :=
    (pairedTTest num base1p opt1p).toOption.getD (.finite 0, (n - 1 : ℕ), .finite 1)
  let (tStatistic, degreesOfFreedom, pValue) ← welchTTest num base1p opt1p
  let cohensD := computeCohensD num base1p opt1p
  let (mannWhitneyUStat, mannWhitneyPValue) :=
    (mannWhitneyUTest num base1p opt1p).toOption.getD (0, 1)
  let bootstrapOnePercentCi :=
    (bootstrapPairedPercentageDeltaCi rng base1p opt1p 2000 (95 / 100)).toOption.getD (0, 0)
  let (leveneFStat, levenePValue) :=
    (leveneVarianceTest num basePacing optPacing).toOption.getD (0, .finite 1)
  let isStatisticallySignificant :=
    (pairedPValue.lt (1 / 100) || pValue.lt (1 / 100)) && mannWhitneyPValue < 5 / 100 &&
      0 < bootstrapOnePercentCi.1
  let meetsThreshold := isStatisticallySignificant &&
    (deltaOnePercentLowPercent.ge 3 || deltaAvgFpsPercent.ge 3)
  return {
    baselineLabel := "Stock Windows Baseline"
    optimizedLabel := "Optimized Profile"
    trialsCount := n
    provenance := (baselineRuns.head?.map (·.provenance)).getD .default
    environment := (optimizedRuns.getLast?.bind (·.environment)).or
      (baselineRuns.getLast?.bind (·.environment))
    baselineAvgFps, optimizedAvgFps, deltaAvgFpsPercent
    baselineOnePercentLow, optimizedOnePercentLow, deltaOnePercentLowPercent
    baselineZeroOnePercentLow, optimizedZeroOnePercentLow
    deltaZeroOnePercentLowPercent :=
      deltaPercent baselineZeroOnePercentLow optimizedZeroOnePercentLow
    baselinePacingStdDev, optimizedPacingStdDev
    deltaPacingStdDevPercent := deltaPercent baselinePacingStdDev optimizedPacingStdDev
    tStatistic, degreesOfFreedom, pValue, pairedTStat, pairedPValue, cohensD
    mannWhitneyUStat, mannWhitneyPValue, bootstrapOnePercentCi, leveneFStat, levenePValue
    isVarianceSignificantlyReduced :=
      levenePValue.lt (5 / 100) && optimizedPacingStdDev < baselinePacingStdDev
    isStatisticallySignificant, meetsThreshold
    recommendation := recommend num meetsThreshold isStatisticallySignificant
      deltaOnePercentLowPercent cohensD }

end ValOpt
