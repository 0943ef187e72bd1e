import Mathlib.Algebra.BigOperators.Group.List.Lemmas
import Mathlib.Order.Bounds.Basic
import ValOpt.Benchmarking.Equiv.Comparison

/-!
# The order of the metrics

`compute_metrics` reads nothing of the samples after the warm-up but their frame times, in any order
(`computeMetrics_congr`).  If these are positive then no divisor is zero, and the rates and the
percentiles are ordered (`metrics_ordered`): the percentiles grow with the rank and lie between the
shortest and the longest frame time, as the mean does, and the rates are their reciprocals.
-/

namespace ValOpt

open Statistics

variable {K : Type} [Field K] [LinearOrder K]

/-! ### Rates and means -/

theorem fpsOf_of_pos {t : K} (h : 0 < t) : fpsOf t = 1000 / t := if_pos h

section Rates

variable [IsStrictOrderedRing K] {t t' : K}

/-- The longer the frame time, the lower the rate. -/
theorem fpsOf_le_fpsOf (h : 0 < t) (hle : t ≤ t') : fpsOf t' ≤ fpsOf t := by
  rw [fpsOf_of_pos h, fpsOf_of_pos (lt_of_lt_of_le h hle)]
  exact div_le_div_of_nonneg_left (by norm_num) h hle

/-- The mean lies between the bounds of the entries. -/
theorem mean_mem_Icc {xs : List K} (h : xs ≠ []) {lo hi : K} (hlo : ∀ x ∈ xs, lo ≤ x)
    (hhi : ∀ x ∈ xs, x ≤ hi) : lo ≤ xs.sum / xs.length ∧ xs.sum / xs.length ≤ hi := by
  have hpos : (0 : K) < xs.length := Nat.cast_pos.mpr (List.length_pos_of_ne_nil h)
  constructor
  · rw [le_div_iff₀ hpos, mul_comm, ← nsmul_eq_mul]
    exact List.card_nsmul_le_sum xs lo hlo
  · rw [div_le_iff₀ hpos, mul_comm, ← nsmul_eq_mul]
    exact List.sum_le_card_nsmul xs hi hhi

end Rates

/-! ### What is read of the samples -/

/-- The frame times after the warm-up. -/
def activeFrameTimes (samples : List (FrameSample K)) (warmupFrames : ℕ) : List K :=
  (samples.drop warmupFrames).map (·.frameTimeMs)

variable [FloorSemiring K]

/-- Only the number of samples and the frame times after the warm-up matter. -/
theorem computeMetrics_congr (num : Numerics K) {samples samples' : List (FrameSample K)}
    {warmupFrames : ℕ} (hlength : samples.length = samples'.length)
    (hperm : (activeFrameTimes samples warmupFrames).Perm (activeFrameTimes samples' warmupFrames))
    (provenance : TelemetryProvenance) (environment : Option (EnvironmentalTelemetry K)) :
    computeMetricsWithProvenance num samples warmupFrames provenance environment =
      computeMetricsWithProvenance num samples' warmupFrames provenance environment := by
  unfold activeFrameTimes at hperm
  have hactive : (samples.drop warmupFrames).length = (samples'.drop warmupFrames).length := by
    rw [List.length_drop, List.length_drop, hlength]
  have hnil : (samples.drop warmupFrames).map (·.frameTimeMs) = [] ↔
      (samples'.drop warmupFrames).map (·.frameTimeMs) = [] := by
    rw [← List.length_eq_zero_iff, hperm.length_eq, List.length_eq_zero_iff]
  have hsum := hperm.sum_eq
  have hsquares : ∀ f : K → K, (((samples.drop warmupFrames).map (·.frameTimeMs)).map f).sum =
      (((samples'.drop warmupFrames).map (·.frameTimeMs)).map f).sum := by
    intro f
    exact (hperm.map f).sum_eq
  have hsorted := mergeSort_eq_of_perm hperm
  simp only [computeMetricsWithProvenance, hlength, hactive, hnil, hsum, hsquares, hsorted]

/-! ### The metrics -/

/-- The sorted frame times. -/
def sortedTimes (ts : List K) : List K := ts.mergeSort (· ≤ ·)

/-- The metrics that are read of the frame times, where no divisor is zero. -/
structure ReadOf (ts : List K) (m : ComputedMetrics K) : Prop where
  totalFrames : m.totalFrames = ts.length
  avgFps : m.avgFps = ts.length / (ts.sum / 1000)
  frameTimeMeanMs : m.frameTimeMeanMs = ts.sum / ts.length
  minFps : m.minFps = fpsOf ((sortedTimes ts).getD (ts.length - 1) 0)
  maxFps : m.maxFps = fpsOf ((sortedTimes ts).getD 0 0)
  onePercentLowFps : m.onePercentLowFps = fpsOf m.p99FrameTimeMs
  zeroPointOnePercentLowFps : m.zeroPointOnePercentLowFps = fpsOf m.p99_9FrameTimeMs
  p50 : m.p50FrameTimeMs = calculatePercentile (sortedTimes ts) 50
  p90 : m.p90FrameTimeMs = calculatePercentile (sortedTimes ts) 90
  p95 : m.p95FrameTimeMs = calculatePercentile (sortedTimes ts) 95
  p99 : m.p99FrameTimeMs = calculatePercentile (sortedTimes ts) 99
  p99_9 : m.p99_9FrameTimeMs = calculatePercentile (sortedTimes ts) (999 / 10)
  stutterCount1_5x : m.stutterCount1_5x =
    ((sortedTimes ts).filter (m.frameTimeMeanMs * (3 / 2) ≤ ·)).length
  stutterCount2_0x : m.stutterCount2_0x =
    ((sortedTimes ts).filter (m.frameTimeMeanMs * 2 ≤ ·)).length

/-- What the metrics of the frames after the warm-up satisfy. -/
structure MetricsOrdered (active : List (FrameSample K)) (m : ComputedMetrics K) : Prop where
  totalFrames : m.totalFrames = active.length
  lows : m.minFps ≤ m.zeroPointOnePercentLowFps ∧
    m.zeroPointOnePercentLowFps ≤ m.onePercentLowFps ∧ m.onePercentLowFps ≤ m.maxFps
  avgFps : m.minFps ≤ m.avgFps ∧ m.avgFps ≤ m.maxFps
  percentiles : m.p50FrameTimeMs ≤ m.p90FrameTimeMs ∧ m.p90FrameTimeMs ≤ m.p95FrameTimeMs ∧
    m.p95FrameTimeMs ≤ m.p99FrameTimeMs ∧ m.p99FrameTimeMs ≤ m.p99_9FrameTimeMs
  within : ∃ lo hi, IsLeast {t | ∃ s ∈ active, s.frameTimeMs = t} lo ∧
    IsGreatest {t | ∃ s ∈ active, s.frameTimeMs = t} hi ∧
    ∀ p ∈ [m.p50FrameTimeMs, m.p90FrameTimeMs, m.p95FrameTimeMs, m.p99FrameTimeMs,
      m.p99_9FrameTimeMs], lo ≤ p ∧ p ≤ hi
  stutters : m.stutterCount2_0x ≤ m.stutterCount1_5x ∧ m.stutterCount1_5x ≤ m.totalFrames

section Ordered

variable [IsStrictOrderedRing K] {samples : List (FrameSample K)} {warmupFrames : ℕ}

omit [FloorSemiring K] [IsStrictOrderedRing K] in
theorem divide_of_ne {x y : K} (h : y ≠ 0) : divide x y = some (x / y) := if_neg h

/-- No divisor is zero. -/
theorem computeMetrics_readOf (num : Numerics K) (hwarmup : warmupFrames < samples.length)
    (hsum : 0 < (activeFrameTimes samples warmupFrames).sum) (provenance : TelemetryProvenance)
    (environment : Option (EnvironmentalTelemetry K)) :
    ∃ m, computeMetricsWithProvenance num samples warmupFrames provenance environment =
        some (.ok m) ∧ ReadOf (activeFrameTimes samples warmupFrames) m := by
  have hlength : (activeFrameTimes samples warmupFrames).length =
      (samples.drop warmupFrames).length := List.length_map _
  have htotal : 0 < (samples.drop warmupFrames).length := by
    rw [List.length_drop]
    omega
  have hne : activeFrameTimes samples warmupFrames ≠ [] := by
    rw [ne_eq, ← List.length_eq_zero_iff]
    omega
  have hcount : ((samples.drop warmupFrames).length : K) ≠ 0 := by
    rw [Nat.cast_ne_zero]
    omega
  have hduration : (activeFrameTimes samples warmupFrames).sum / 1000 ≠ 0 :=
    ne_of_gt (div_pos hsum (by norm_num))
  simp only [computeMetricsWithProvenance, if_neg (Nat.not_le.mpr hwarmup),
    ← activeFrameTimes.eq_def, if_neg hne, divide_of_ne hduration, divide_of_ne hcount,
    Option.bind_eq_bind, Option.bind_some]
  by_cases hone : 1 < (samples.drop warmupFrames).length
  · have hpred : (((samples.drop warmupFrames).length - 1 : ℕ) : K) ≠ 0 := by
      rw [Nat.cast_ne_zero]
      omega
    rw [if_pos hone, divide_of_ne hpred, Option.bind_some]
    refine ⟨_, rfl, ?_⟩
    rw [← hlength]
    constructor <;> rfl
  · rw [if_neg hone]
    refine ⟨_, rfl, ?_⟩
    rw [← hlength]
    constructor <;> rfl

omit [Field K] [FloorSemiring K] [IsStrictOrderedRing K] in
theorem mem_sortedTimes {ts : List K} {t : K} : t ∈ sortedTimes ts ↔ t ∈ ts := List.mem_mergeSort

/-- The first and the last of the sorted frame times bound them, their mean and every percentile. -/
structure TimesBounded (ts : List K) (lo hi : K) : Prop where
  least : IsLeast {t | t ∈ ts} lo
  greatest : IsGreatest {t | t ∈ ts} hi
  mean : lo ≤ ts.sum / ts.length ∧ ts.sum / ts.length ≤ hi
  percentile : ∀ p, lo ≤ calculatePercentile (sortedTimes ts) p ∧
    calculatePercentile (sortedTimes ts) p ≤ hi

theorem timesBounded {ts : List K} (hne : ts ≠ []) : TimesBounded ts
    ((sortedTimes ts).getD 0 0) ((sortedTimes ts).getD (ts.length - 1) 0) := by
  have hs : (sortedTimes ts).SortedLE := List.sortedLE_mergeSort
  have hne' : sortedTimes ts ≠ [] := mergeSort_ne_nil hne
  have hlength : (sortedTimes ts).length = ts.length := List.length_mergeSort _
  have hset : {t | t ∈ sortedTimes ts} = {t | t ∈ ts} := by
    ext t
    exact mem_sortedTimes
  have hleast := isLeast_getD_zero 0 hs hne'
  have hgreatest := isGreatest_getD_last 0 hs hne'
  rw [hset] at hleast hgreatest
  rw [hlength] at hgreatest
  constructor
  case least => exact hleast
  case greatest => exact hgreatest
  case mean => exact mean_mem_Icc hne (fun t ht => hleast.2 ht) fun t ht => hgreatest.2 ht
  case percentile =>
    intro p
    constructor
    · exact le_calculatePercentile hs hne' fun t ht => hleast.2 (mem_sortedTimes.mp ht)
    · exact calculatePercentile_le hs hne' fun t ht => hgreatest.2 (mem_sortedTimes.mp ht)

theorem calculatePercentile_sortedTimes_mono {ts : List K} (hne : ts ≠ []) {p q : K} (h : p ≤ q) :
    calculatePercentile (sortedTimes ts) p ≤ calculatePercentile (sortedTimes ts) q :=
  calculatePercentile_mono List.sortedLE_mergeSort (mergeSort_ne_nil hne) h

omit [Field K] [FloorSemiring K] [IsStrictOrderedRing K] in
/-- Fewer frame times reach the higher threshold. -/
theorem length_filter_le_length_filter (ts : List K) {threshold threshold' : K}
    (h : threshold ≤ threshold') :
    (ts.filter (threshold' ≤ ·)).length ≤ (ts.filter (threshold ≤ ·)).length := by
  apply List.Sublist.length_le
  apply List.monotone_filter_right
  intro t ht
  rw [decide_eq_true_eq] at *
  exact le_trans h ht

/-- The frame times are positive, so the rates are in the reverse order of the times. -/
theorem ReadOf.ordered {active : List (FrameSample K)} {ts : List K} {m : ComputedMetrics K}
    (h : ReadOf ts m) (hts : active.map (·.frameTimeMs) = ts) (hne : ts ≠ [])
    (hpos : ∀ t ∈ ts, 0 < t) : MetricsOrdered active m := by
  obtain ⟨hleast, hgreatest, hmean, hpercentile⟩ := timesBounded hne
  have hmono := fun {p q : K} => calculatePercentile_sortedTimes_mono (p := p) (q := q) hne
  have hset : {t | ∃ s ∈ active, s.frameTimeMs = t} = {t | t ∈ ts} := by
    ext t
    show (∃ s ∈ active, s.frameTimeMs = t) ↔ t ∈ ts
    rw [← hts, List.mem_map]
  have hlo : 0 < (sortedTimes ts).getD 0 0 := hpos _ hleast.1
  have hmean_pos : 0 < ts.sum / ts.length := lt_of_lt_of_le hlo hmean.1
  have hthreshold : m.frameTimeMeanMs * (3 / 2) ≤ m.frameTimeMeanMs * 2 := by
    apply mul_le_mul_of_nonneg_left (by norm_num)
    rw [h.frameTimeMeanMs]
    exact le_of_lt hmean_pos
  -- The average rate is the rate of the mean frame time, so all rates compare as their times do.
  have hrate : m.avgFps = fpsOf (ts.sum / ts.length) := by
    rw [h.avgFps, fpsOf_of_pos hmean_pos]
    rw [div_div_eq_mul_div, div_div_eq_mul_div, mul_comm]
  constructor
  case totalFrames => rw [h.totalFrames, ← hts, List.length_map]
  case lows =>
    rw [h.minFps, h.maxFps, h.onePercentLowFps, h.zeroPointOnePercentLowFps, h.p99, h.p99_9]
    refine ⟨?_, ?_, ?_⟩
    · exact fpsOf_le_fpsOf (lt_of_lt_of_le hlo (hpercentile _).1) (hpercentile _).2
    · exact fpsOf_le_fpsOf (lt_of_lt_of_le hlo (hpercentile _).1) (hmono (by norm_num))
    · exact fpsOf_le_fpsOf hlo (hpercentile _).1
  case avgFps =>
    rw [h.minFps, h.maxFps, hrate]
    constructor
    · exact fpsOf_le_fpsOf hmean_pos hmean.2
    · exact fpsOf_le_fpsOf hlo hmean.1
  case percentiles =>
    rw [h.p50, h.p90, h.p95, h.p99, h.p99_9]
    exact ⟨hmono (by norm_num), hmono (by norm_num), hmono (by norm_num), hmono (by norm_num)⟩
  case within =>
    rw [hset, h.p50, h.p90, h.p95, h.p99, h.p99_9]
    refine ⟨_, _, hleast, hgreatest, ?_⟩
    intro p hp
    simp only [List.mem_cons, List.not_mem_nil, or_false] at hp
    rcases hp with rfl | rfl | rfl | rfl | rfl <;> exact hpercentile _
  case stutters =>
    have hlength : (sortedTimes ts).length = ts.length := List.length_mergeSort _
    rw [h.stutterCount1_5x, h.stutterCount2_0x, h.totalFrames, ← hlength]
    constructor
    · exact length_filter_le_length_filter _ hthreshold
    · exact List.length_filter_le _ _

/-- **With positive frame times the metrics are computed and ordered**, and any order of the frames
after the warm-up has the same. -/
theorem metrics_ordered (num : Numerics K) (hpos : ∀ s ∈ samples, 0 < s.frameTimeMs)
    (hwarmup : warmupFrames < samples.length) (provenance : TelemetryProvenance)
    (environment : Option (EnvironmentalTelemetry K)) :
    ∃ m, computeMetricsWithProvenance num samples warmupFrames provenance environment =
        some (.ok m) ∧
      MetricsOrdered (samples.drop warmupFrames) m ∧
      ∀ active, active.Perm (samples.drop warmupFrames) →
        computeMetricsWithProvenance num (samples.take warmupFrames ++ active) warmupFrames
          provenance environment = some (.ok m) := by
  have hne : activeFrameTimes samples warmupFrames ≠ [] := by
    rw [ne_eq, activeFrameTimes, List.map_eq_nil_iff, List.drop_eq_nil_iff]
    omega
  have htimes : ∀ t ∈ activeFrameTimes samples warmupFrames, 0 < t := by
    intro t ht
    obtain ⟨s, hs, rfl⟩ := List.mem_map.mp ht
    exact hpos s (List.mem_of_mem_drop hs)
  obtain ⟨m, hm, hread⟩ := computeMetrics_readOf num hwarmup (List.sum_pos _ htimes hne) provenance
    environment
  refine ⟨m, hm, hread.ordered rfl hne htimes, ?_⟩
  intro active hactive
  rw [← hm]
  have htake : (samples.take warmupFrames).length = warmupFrames := by
    rw [List.length_take]
    omega
  apply computeMetrics_congr
  · rw [List.length_append, hactive.length_eq, ← List.length_append, List.take_append_drop]
  · rw [activeFrameTimes, List.drop_append, htake, Nat.sub_self, List.drop_zero,
      List.drop_eq_nil_of_le (by omega), List.nil_append]
    exact hactive.map _

end Ordered

/-- Three frames. -/
def sampleFrames : List (FrameSample ℝ) :=
  [⟨1, 4000, 4, none, 4⟩, ⟨2, 20000, 16, none, 16⟩, ⟨3, 25000, 5, none, 5⟩]

theorem sampleFrames_ordered : ∃ m, computeMetrics sampleNumerics sampleFrames 1 = some (.ok m) ∧
    MetricsOrdered (sampleFrames.drop 1) m ∧
      ∀ active, active.Perm (sampleFrames.drop 1) →
        computeMetrics sampleNumerics (sampleFrames.take 1 ++ active) 1 = some (.ok m) := by
  have hpos : ∀ s ∈ sampleFrames, 0 < s.frameTimeMs := by
    simp [sampleFrames]
  exact metrics_ordered sampleNumerics hpos (by decide) .default none

end ValOpt
