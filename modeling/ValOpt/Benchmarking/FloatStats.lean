import ValOpt.Benchmarking.Extended
import ValOpt.Benchmarking.Stats
import ValOpt.Loop.Basic

/-!
# The statistics of trials, with the values of `f64`

`compare_ab_trials` and the functions of `benchmarking/stats.rs` that it calls, for measurements
that may be infinite or NaN.  `Stats` has the same functions for exact numbers.

Only one loop is not bounded by a length: the one over the groups of ties in `mann_whitney_u_test`.
It runs for a given number of rounds here, and `none` stands for a call that has not returned by
then.
-/

namespace ValOpt

open Extended

/-! ### Sorting -/

/-- The comparison is a total order on the entries. -/
structure TotalOn {α : Type} (cmp : α → α → Ordering) (xs : List α) : Prop where
  swap : ∀ a ∈ xs, ∀ b ∈ xs, cmp b a = (cmp a b).swap
  trans : ∀ a ∈ xs, ∀ b ∈ xs, ∀ c ∈ xs, (cmp a b).isLE → (cmp b c).isLE → (cmp a c).isLE

/-- `slice::sort_by`.  It is stable; where the comparison is not a total order, the order of the
entries is unspecified.  (Such a call may also panic, and is over then.) -/
structure SortBy where
  sortBy {α : Type} : (α → α → Ordering) → List α → List α
  perm {α : Type} (cmp : α → α → Ordering) (xs : List α) : (sortBy cmp xs).Perm xs
  sorted {α : Type} {cmp : α → α → Ordering} {xs : List α} : TotalOn cmp xs →
    sortBy cmp xs = xs.mergeSort fun a b => (cmp a b).isLE

/-- The functions of `Numerics`, with the values that are not finite. -/
structure FloatNumerics (K : Type) [Zero K] [LT K] extends Numerics K where
  incompleteBeta : Extended K → Extended K → Extended K → Extended K
  incompleteBeta_finite (a b x : K) :
    incompleteBeta (finite a) (finite b) (finite x) = regularizedIncompleteBeta a b x

namespace F64

variable {K : Type} [Field K] [LinearOrder K]

/-- `a.partial_cmp(b).unwrap_or(Ordering::Equal)`. -/
def compareOrEqual (a b : Extended K) : Ordering := (partialCmp a b).getD .eq

/-- `self.sqrt()`. -/
def sqrt (num : Numerics K) : Extended K → Extended K
  | finite x => if x < 0 then nan else finite (num.sqrt x)
  | infinity => infinity
  | _ => nan

/-- The mean. -/
def mean (sample : List (Extended K)) : Extended K := sample.sum / sample.length

/-- The sum of the squared differences from a value. -/
def sumSquares (center : Extended K) (sample : List (Extended K)) : Extended K :=
  (sample.map fun x => (x - center) * (x - center)).sum

/-- The variance, with `n - 1`. -/
def variance (sample : List (Extended K)) : Extended K :=
  sumSquares (mean sample) sample / ((sample.length : Extended K) - finite 1)

/-- `1e-12`. -/
def tolerance : Extended K := finite (1 / 10 ^ 12)

/-! ### The t-tests -/

/-- `compute_t_distribution_two_tailed_p`. -/
def computeTDistributionTwoTailedP (num : FloatNumerics K) (t df : Extended K) : Extended K :=
  if df ≤ 0 then finite 1
  else num.incompleteBeta (df / finite 2) (finite (1 / 2)) (df / (df + t * t))

/-- `welch_t_test`: the statistic, the degrees of freedom and the p-value. -/
def welchTTest (num : FloatNumerics K) (sampleA sampleB : List (Extended K)) :
    Except String (Extended K × Extended K × Extended K) :=
  let n1 : Extended K := sampleA.length
  let n2 : Extended K := sampleB.length
  if sampleA.length < 2 ∨ sampleB.length < 2 then
    .error s!"Welch's t-test requires at least 2 samples per group, got {sampleA.length} and {sampleB.length}"
  else
    let mean1 := mean sampleA
    let mean2 := mean sampleB
    let se1 := variance sampleA / n1
    let se2 := variance sampleB / n2
    let seDiff := sqrt num.toNumerics (se1 + se2)
    if seDiff ≤ tolerance then
      if (mean1 - mean2).abs < tolerance then .ok (finite 0, n1 + n2 - finite 2, finite 1)
      else .ok (infinity, n1 + n2 - finite 2, finite 0)
    else
      let tStat := (mean2 - mean1) / seDiff
      let df := (se1 + se2) * (se1 + se2) /
        (se1 * se1 / (n1 - finite 1) + se2 * se2 / (n2 - finite 1))
      .ok (tStat, df, computeTDistributionTwoTailedP num tStat.abs df)

/-- `paired_t_test`: the statistic, the degrees of freedom and the p-value. -/
def pairedTTest (num : FloatNumerics K) (sampleA sampleB : List (Extended K)) :
    Except String (Extended K × Extended K × Extended K) :=
  let n := sampleA.length
  if n ≠ sampleB.length then
    .error s!"Paired t-test requires equal sample sizes, got {n} and {sampleB.length}"
  else if n < 2 then .error s!"Paired t-test requires at least 2 pairs, got {n}"
  else
    let diffs := List.zipWith (fun b a => b - a) sampleB sampleA
    let meanDiff := diffs.sum / n
    let df : Extended K := (n - 1 : ℕ)
    let varDiff := sumSquares meanDiff diffs / df
    let seDiff := sqrt num.toNumerics (varDiff / n)
    if seDiff ≤ tolerance then
      if meanDiff.abs < tolerance then .ok (finite 0, df, finite 1)
      else .ok (infinity, df, finite 0)
    else
      let tStat := meanDiff / seDiff
      .ok (tStat, df, computeTDistributionTwoTailedP num tStat.abs df)

/-- `compute_cohens_d`. -/
def computeCohensD (num : FloatNumerics K) (sampleA sampleB : List (Extended K)) : Extended K :=
  let n1 : Extended K := sampleA.length
  let n2 : Extended K := sampleB.length
  if sampleA.length < 2 ∨ sampleB.length < 2 then finite 0
  else
    let mean1 := mean sampleA
    let mean2 := mean sampleB
    let pooledVar := ((n1 - finite 1) * variance sampleA + (n2 - finite 1) * variance sampleB) /
      (n1 + n2 - finite 2)
    let pooledSd := sqrt num.toNumerics pooledVar
    if pooledSd ≤ tolerance then
      if (mean2 - mean1).abs < tolerance then finite 0
      else if mean1 < mean2 then infinity
      else negInfinity
    else (mean2 - mean1) / pooledSd

/-! ### The Mann-Whitney test -/

/-- The variables of the loop over the groups of ties. -/
structure TieLoop (K : Type) where
  i : ℕ
  ranks : List K
  tieSum : K

/-- The variables before the loop. -/
def TieLoop.start (K : Type) [Zero K] (nTotal : ℕ) : TieLoop K where
  i := 0
  ranks := List.replicate nTotal 0
  tieSum := 0

/-- The inner loop: where the values that are tied with the one at `i` end, from `j` on. -/
def tieEnd (combined : List (Extended K × Fin 2)) (i j : ℕ) : ℕ :=
  if j < combined.length ∧ ((combined.getD j (nan, 0)).1 - (combined.getD i (nan, 0)).1).abs <
      tolerance then
    tieEnd combined i (j + 1)
  else j
  termination_by combined.length - j

/-- One round of the loop over the groups of ties. -/
def tieRound (combined : List (Extended K × Fin 2)) (s : TieLoop K) : TieLoop K :=
  let nTotal := combined.length
  let j := tieEnd combined s.i s.i
  let tieCount : K := (j - s.i : ℕ)
  let avgRank : K := (s.i + 1 + j : ℕ) / 2
  { i := j
    ranks := (List.range' s.i (j - s.i)).foldl (fun ranks k => ranks.set k avgRank) s.ranks
    tieSum :=
      if 1 < tieCount then
        s.tieSum + (tieCount ^ 3 - tieCount) / (nTotal * (nTotal - 1))
      else s.tieSum }

/-- The values of both samples in order, each with the sample that it is from. -/
def combine (sort : SortBy) (sampleA sampleB : List (Extended K)) : List (Extended K × Fin 2) :=
  sort.sortBy (fun x y => compareOrEqual x.1 y.1)
    (sampleA.map (·, (0 : Fin 2)) ++ sampleB.map (·, 1))

/-- `mann_whitney_u_test`: the statistic and the p-value. -/
def mannWhitneyUTest (num : FloatNumerics K) (sort : SortBy) (fuel : ℕ)
    (sampleA sampleB : List (Extended K)) : Option (Except String (K × K)) :=
  let n1 := sampleA.length
  let n2 := sampleB.length
  if n1 < 2 ∨ n2 < 2 then
    some (.error s!"Mann-Whitney U requires >= 2 samples per group, got {n1} and {n2}")
  else do
    let nTotal := n1 + n2
    let combined := combine sort sampleA sampleB
    let ⟨_, ranks, tieSum⟩ ←
      Loop.whileLoop (fun s => s.i < nTotal) (tieRound combined) fuel (TieLoop.start K nTotal)
    let rankSumA :=
      (List.zipWith (fun x rank => if x.2 = 0 then rank else 0) combined ranks).sum
    let u1 := (n1 : K) * n2 + n1 * (n1 + 1) / 2 - rankSumA
    let u2 := (n1 : K) * n2 - u1
    let u := min u1 u2
    let muU := (n1 : K) * n2 / 2
    let varU := (n1 : K) * n2 / 12 * (nTotal + 1 - tieSum)
    if varU ≤ 1 / 10 ^ 12 then some (.ok (u, if |u - muU| < 1 / 10 ^ 12 then 1 else 0))
    else
      let sigmaU := num.sqrt varU
      let z :=
        if u < muU then (u - muU + 1 / 2) / sigmaU
        else if muU < u then (u - muU - 1 / 2) / sigmaU
        else 0
      some (.ok (u, max 0 (min (2 * (1 - num.standardNormalCdf |z|)) 1)))

/-! ### Percentiles and Levene's test -/

variable [FloorSemiring K]

/-- `calculate_percentile` of a sorted list. -/
def calculatePercentile (sortedData : List (Extended K)) (percentile : K) : Extended K :=
  let n := sortedData.length
  if n = 0 then finite 0
  else if n = 1 then sortedData.getD 0 nan
  else
    let p := max 0 (min percentile 100)
    let rank := p / 100 * (n - 1 : ℕ)
    let lowIdx := ⌊rank⌋₊
    let highIdx := min (lowIdx + 1) (n - 1)
    let frac := rank - lowIdx
    sortedData.getD lowIdx nan +
      finite frac * (sortedData.getD highIdx nan - sortedData.getD lowIdx nan)

/-- `levene_variance_test`: the statistic and the p-value. -/
def leveneVarianceTest (num : FloatNumerics K) (sort : SortBy)
    (sampleA sampleB : List (Extended K)) : Except String (Extended K × Extended K) :=
  let n1 := sampleA.length
  let n2 := sampleB.length
  if n1 < 2 ∨ n2 < 2 then
    .error s!"Levene test requires >= 2 samples per group, got {n1} and {n2}"
  else
    let medA := calculatePercentile (sort.sortBy compareOrEqual sampleA) 50
    let medB := calculatePercentile (sort.sortBy compareOrEqual sampleB) 50
    let z1 := sampleA.map fun x => (x - medA).abs
    let z2 := sampleB.map fun x => (x - medB).abs
    let meanZ1 := z1.sum / (n1 : Extended K)
    let meanZ2 := z2.sum / (n2 : Extended K)
    let overallMeanZ := (z1.sum + z2.sum) / ((n1 + n2 : ℕ) : Extended K)
    let ssBetween :=
      (n1 : Extended K) * ((meanZ1 - overallMeanZ) * (meanZ1 - overallMeanZ)) +
        (n2 : Extended K) * ((meanZ2 - overallMeanZ) * (meanZ2 - overallMeanZ))
    let ssWithin := sumSquares meanZ1 z1 + sumSquares meanZ2 z2
    let dfBetween : Extended K := finite 1
    let dfWithin : Extended K := (n1 + n2 - 2 : ℕ)
    if ssWithin ≤ tolerance then
      .ok (finite 0, finite (if ssBetween < tolerance then 1 else 0))
    else
      let fStat := ssBetween / dfBetween / (ssWithin / dfWithin)
      .ok (fStat, computeTDistributionTwoTailedP num (sqrt num.toNumerics fStat) dfWithin)

/-! ### The bootstrap interval -/

/-- The inner loop of a resampling: the sums over the pairs drawn, and the state of the
generator. -/
def resample (rng : Generator) (sampleA sampleB : List (Extended K)) :
    ℕ → Extended K → Extended K → rng.State → Extended K × Extended K × rng.State
  | 0, sumA, sumB, state => (sumA, sumB, state)
  | draws + 1, sumA, sumB, state =>
    let (random, state) := rng.next state
    let idx := random.toNat % sampleA.length
    resample rng sampleA sampleB draws (sumA + sampleA.getD idx nan) (sumB + sampleB.getD idx nan)
      state

/-- The outer loop: the percentage deltas of the resampled means, where the mean is positive. -/
def resampledDeltas (rng : Generator) (sampleA sampleB : List (Extended K)) :
    ℕ → rng.State → List (Extended K)
  | 0, _ => []
  | resamples + 1, state =>
    let n := sampleA.length
    let (sumA, sumB, state) := resample rng sampleA sampleB n 0 0 state
    let meanA := sumA / (n : Extended K)
    let meanB := sumB / (n : Extended K)
    if finite 0 < meanA then
      (meanB - meanA) / meanA * finite 100 :: resampledDeltas rng sampleA sampleB resamples state
    else resampledDeltas rng sampleA sampleB resamples state

/-- `bootstrap_paired_percentage_delta_ci`. -/
def bootstrapPairedPercentageDeltaCi (rng : Generator) (sort : SortBy)
    (sampleA sampleB : List (Extended K)) (resamples : ℕ) (confidenceLevel : K) :
    Except String (Extended K × Extended K) :=
  let n := sampleA.length
  if n ≠ sampleB.length then
    .error s!"Paired bootstrap requires equal sample sizes, got {n} and {sampleB.length}"
  else if n < 2 then .error s!"Paired bootstrap requires at least 2 pairs, got {n}"
  else
    let deltas := resampledDeltas rng sampleA sampleB resamples rng.seed
    if deltas = [] then .ok (finite 0, finite 0)
    else
      let sorted := sort.sortBy compareOrEqual deltas
      let alpha := 1 - confidenceLevel
      .ok (calculatePercentile sorted (alpha / 2 * 100),
        calculatePercentile sorted ((1 - alpha / 2) * 100))

/-! ### The verdict -/

/-- `((optimized - baseline) / baseline) * 100.0`. -/
def deltaPercent (baseline optimized : Extended K) : Extended K :=
  (optimized - baseline) / baseline * finite 100

end F64

variable (K : Type)

/-- The comparison of baseline and optimized trials, with values that may not be finite. -/
structure F64.ABComparisonReport where
  baselineLabel : String
  optimizedLabel : String
  trialsCount : ℕ
  provenance : TelemetryProvenance
  environment : Option (EnvironmentalTelemetry (Extended K))
  baselineAvgFps : Extended K
  optimizedAvgFps : Extended K
  deltaAvgFpsPercent : Extended K
  baselineOnePercentLow : Extended K
  optimizedOnePercentLow : Extended K
  deltaOnePercentLowPercent : Extended K
  baselineZeroOnePercentLow : Extended K
  optimizedZeroOnePercentLow : Extended K
  deltaZeroOnePercentLowPercent : Extended K
  baselinePacingStdDev : Extended K
  optimizedPacingStdDev : Extended K
  deltaPacingStdDevPercent : Extended K
  tStatistic : Extended K
  degreesOfFreedom : Extended K
  pValue : Extended K
  pairedTStat : Extended K
  pairedPValue : Extended K
  cohensD : Extended K
  mannWhitneyUStat : K
  mannWhitneyPValue : K
  bootstrapOnePercentCi : Extended K × Extended K
  leveneFStat : Extended K
  levenePValue : Extended K
  isVarianceSignificantlyReduced : Bool
  isStatisticallySignificant : Bool
  meetsThreshold : Bool
  recommendation : String

/-- `compare_ab_trials`. -/
def F64.compareAbTrials {K : Type} [Field K] [LinearOrder K] [FloorSemiring K]
    (num : FloatNumerics K) (rng : Generator) (sort : SortBy) (fuel : ℕ)
    (baselineRuns optimizedRuns : List (BenchmarkMetrics (Extended K))) :
    Option (Except String (F64.ABComparisonReport K)) :=
  if baselineRuns.isEmpty || optimizedRuns.isEmpty then
    some (.error "Cannot compare empty benchmark trial sets")
  else
    let n := min baselineRuns.length optimizedRuns.length
    let base1p := baselineRuns.map (·.onePercentLowFps)
    let opt1p := optimizedRuns.map (·.onePercentLowFps)
    let basePacing := baselineRuns.map (·.frameTimeStdDevMs)
    let optPacing := optimizedRuns.map (·.frameTimeStdDevMs)
    let baselineAvgFps := mean (baselineRuns.map (·.avgFps))
    let optimizedAvgFps := mean (optimizedRuns.map (·.avgFps))
    let baselineOnePercentLow := mean base1p
    let optimizedOnePercentLow := mean opt1p
    let baselineZeroOnePercentLow := mean (baselineRuns.map (·.zeroPointOnePercentLowFps))
    let optimizedZeroOnePercentLow := mean (optimizedRuns.map (·.zeroPointOnePercentLowFps))
    let baselinePacingStdDev := mean basePacing
    let optimizedPacingStdDev := mean optPacing
    let deltaAvgFpsPercent := deltaPercent baselineAvgFps optimizedAvgFps
    let deltaOnePercentLowPercent := deltaPercent baselineOnePercentLow optimizedOnePercentLow
    let (pairedTStat, _, pairedPValue) :=
      (pairedTTest num base1p opt1p).toOption.getD (finite 0, (n - 1 : ℕ), finite 1)
    match welchTTest num base1p opt1p with
    | .error e => some (.error e)
    | .ok (tStatistic, degreesOfFreedom, pValue) => do
      let cohensD := computeCohensD num base1p opt1p
      let mannWhitney ← mannWhitneyUTest num sort fuel base1p opt1p
      let (mannWhitneyUStat, mannWhitneyPValue) := mannWhitney.toOption.getD (0, 1)
      let bootstrapOnePercentCi :=
        (bootstrapPairedPercentageDeltaCi rng sort base1p opt1p 2000 (95 / 100)).toOption.getD
          (finite 0, finite 0)
      let (leveneFStat, levenePValue) :=
        (leveneVarianceTest num sort basePacing optPacing).toOption.getD (finite 0, finite 1)
      let isStatisticallySignificant :=
        (pairedPValue.lt (1 / 100) || pValue.lt (1 / 100)) && mannWhitneyPValue < 5 / 100 &&
          bootstrapOnePercentCi.1.gt 0
      let meetsThreshold := isStatisticallySignificant &&
        (deltaOnePercentLowPercent.ge 3 || deltaAvgFpsPercent.ge 3)
      some (.ok {
        baselineLabel := "Stock Windows Baseline"
        optimizedLabel := "Optimized Profile"
        trialsCount := n
        provenance := (baselineRuns.head?.map (·.provenance)).getD .default
        environment := (optimizedRuns.getLast?.bind (·.environment)).or
          (baselineRuns.getLast?.bind (·.environment))
        baselineAvgFps, optimizedAvgFps, deltaAvgFpsPercent
        baselineOnePercentLow, optimizedOnePercentLow, deltaOnePercentLowPercent
        baselineZeroOnePercentLow, optimizedZeroOnePercentLow
        deltaZeroOnePercentLowPercent :=
          deltaPercent baselineZeroOnePercentLow optimizedZeroOnePercentLow
        baselinePacingStdDev, optimizedPacingStdDev
        deltaPacingStdDevPercent := deltaPercent baselinePacingStdDev optimizedPacingStdDev
        tStatistic, degreesOfFreedom, pValue, pairedTStat, pairedPValue, cohensD
        mannWhitneyUStat, mannWhitneyPValue, bootstrapOnePercentCi, leveneFStat, levenePValue
        isVarianceSignificantlyReduced :=
          levenePValue.lt (5 / 100) && optimizedPacingStdDev < baselinePacingStdDev
        isStatisticallySignificant, meetsThreshold
        recommendation := recommend num.toNumerics meetsThreshold isStatisticallySignificant
          deltaOnePercentLowPercent cohensD })

end ValOpt
