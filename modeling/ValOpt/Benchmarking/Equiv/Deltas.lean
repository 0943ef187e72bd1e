import ValOpt.Benchmarking.Equiv.Metrics

/-!
# The divisors of a comparison

`compare_ab_trials` divides by four means over the baseline trials.  Those of the rates are positive
for trials that `compute_metrics` returned (`ComputedTrial.rates_pos`), but the standard deviation
of the frame times is zero for a perfectly paced trial (`ComputedTrial.stdDev_spec`), and so
is the mean over such trials (`deltas_defined_iff`).
-/

namespace ValOpt

open Statistics

variable {K : Type} [Field K] [LinearOrder K]

/-! ### The variance of the frame times -/

/-- `variance` of `compute_metrics`. -/
def frameVariance (ts : List K) : K :=
  if 1 < ts.length then (ts.map fun t => (t - ts.sum / ts.length) ^ 2).sum / (ts.length - 1 : ℕ)
  else 0

section Variance

variable [IsStrictOrderedRing K] {ts : List K}

theorem frameVariance_nonneg (ts : List K) : 0 ≤ frameVariance ts := by
  rw [frameVariance]
  split
  · apply div_nonneg _ (Nat.cast_nonneg _)
    apply List.sum_nonneg
    intro d hd
    obtain ⟨t, -, rfl⟩ := List.mem_map.mp hd
    exact sq_nonneg _
  · exact le_refl 0

/-- There is no variance just if all frames took the same time. -/
theorem frameVariance_eq_zero_iff : frameVariance ts = 0 ↔ ∀ t ∈ ts, ∀ t' ∈ ts, t = t' := by
  rw [frameVariance]
  split
  next hlen =>
    have hdf : ((ts.length - 1 : ℕ) : K) ≠ 0 := by
      rw [Nat.cast_ne_zero]
      omega
    rw [div_eq_zero_iff, or_iff_left hdf]
    constructor
    · intro hsum
      have hmean : ∀ t ∈ ts, t = ts.sum / ts.length := by
        intro t ht
        have hsq := List.all_zero_of_le_zero_le_of_sum_eq_zero (by simp [sq_nonneg]) hsum
          (List.mem_map_of_mem ht)
        exact sub_eq_zero.mp (pow_eq_zero_iff two_ne_zero |>.mp hsq)
      intro t ht t' ht'
      rw [hmean t ht, ← hmean t' ht']
    · intro hall
      obtain ⟨x, hx⟩ := List.exists_mem_of_length_pos (Nat.zero_lt_of_lt hlen)
      have hts : ts = List.replicate ts.length x :=
        List.eq_replicate_iff.mpr ⟨rfl, fun t ht => hall t ht x hx⟩
      have hcount : (ts.length : K) ≠ 0 := by
        rw [Nat.cast_ne_zero]
        omega
      have hmean : ts.sum / ts.length = x := by
        rw [hts, List.sum_replicate, List.length_replicate, nsmul_eq_mul,
          mul_div_cancel_left₀ _ hcount]
      apply List.sum_eq_zero
      intro d hd
      obtain ⟨t, ht, rfl⟩ := List.mem_map.mp hd
      rw [hmean, hall t ht x hx, sub_self, zero_pow two_ne_zero]
  next hlen =>
    apply iff_of_true rfl
    intro t ht t' ht'
    have hpos := List.length_pos_of_mem ht
    obtain ⟨x, rfl⟩ := List.length_eq_one_iff.mp (show ts.length = 1 by omega)
    rw [List.mem_singleton.mp ht, List.mem_singleton.mp ht']

end Variance

variable [FloorSemiring K] {num : Numerics K}

/-! ### Trials that were computed -/

theorem computeMetrics_stdDev [IsStrictOrderedRing K] {samples : List (FrameSample K)}
    {warmupFrames : ℕ} {m : ComputedMetrics K}
    (hsum : 0 < (activeFrameTimes samples warmupFrames).sum)
    (h : computeMetrics num samples warmupFrames = some (.ok m)) :
    m.frameTimeStdDevMs = num.sqrt (frameVariance (activeFrameTimes samples warmupFrames)) := by
  have hlength : (activeFrameTimes samples warmupFrames).length =
      (samples.drop warmupFrames).length := List.length_map _
  have hne : activeFrameTimes samples warmupFrames ≠ [] := by
    intro hnil
    rw [hnil] at hsum
    exact absurd hsum (lt_irrefl 0)
  have hpos := List.length_pos_of_ne_nil hne
  have hwarmup : warmupFrames < samples.length := by
    rw [hlength, List.length_drop] at hpos
    omega
  have hcount : ((samples.drop warmupFrames).length : K) ≠ 0 := by
    rw [Nat.cast_ne_zero]
    omega
  have hduration : (activeFrameTimes samples warmupFrames).sum / 1000 ≠ 0 :=
    ne_of_gt (div_pos hsum (by norm_num))
  rw [frameVariance, hlength]
  -- every divisor on the way is positive, so the result is that of the last line
  simp only [computeMetrics, computeMetricsWithProvenance, if_neg (Nat.not_le.mpr hwarmup),
    ← activeFrameTimes.eq_def, if_neg hne, divide_of_ne hduration, divide_of_ne hcount,
    Option.bind_eq_bind, Option.bind_some] at h
  by_cases hone : 1 < (samples.drop warmupFrames).length
  · have hpred : (((samples.drop warmupFrames).length - 1 : ℕ) : K) ≠ 0 := by
      rw [Nat.cast_ne_zero]
      omega
    rw [if_pos hone, divide_of_ne hpred, Option.bind_some] at h
    rw [if_pos hone, ← Except.ok.inj (Option.some.inj h)]
  · rw [if_neg hone] at h
    rw [if_neg hone, ← Except.ok.inj (Option.some.inj h)]

/-- A trial as `compute_metrics` returns it for frames that all took time. -/
structure ComputedTrial (num : Numerics K) where
  samples : List (FrameSample K)
  warmupFrames : ℕ
  metrics : ComputedMetrics K
  frameTimes_pos : ∀ s ∈ samples, 0 < s.frameTimeMs
  computed : computeMetrics num samples warmupFrames = some (.ok metrics)

namespace ComputedTrial

/-- The frame times that are measured. -/
def frameTimes (trial : ComputedTrial num) : List K :=
  activeFrameTimes trial.samples trial.warmupFrames

/-- All frames that are measured took the same time. -/
def PerfectlyPaced (trial : ComputedTrial num) : Prop :=
  ∀ t ∈ trial.frameTimes, ∀ t' ∈ trial.frameTimes, t = t'

section Trial

variable [IsStrictOrderedRing K] (trial : ComputedTrial num)

omit [IsStrictOrderedRing K] in
theorem pos {t : K} (ht : t ∈ trial.frameTimes) : 0 < t := by
  obtain ⟨s, hs, rfl⟩ := List.mem_map.mp ht
  exact trial.frameTimes_pos s (List.mem_of_mem_drop hs)

omit [IsStrictOrderedRing K] in
/-- There are none without frames after the warm-up. -/
theorem warmup_lt : trial.warmupFrames < trial.samples.length := by
  by_contra hle
  have hcomputed := trial.computed
  rw [computeMetrics, computeMetricsWithProvenance, if_pos (Nat.not_lt.mp hle)] at hcomputed
  simp at hcomputed

omit [IsStrictOrderedRing K] in
theorem frameTimes_ne_nil : trial.frameTimes ≠ [] := by
  rw [frameTimes, activeFrameTimes, ne_eq, List.map_eq_nil_iff, List.drop_eq_nil_iff]
  exact Nat.not_le.mpr trial.warmup_lt

theorem sum_pos : 0 < trial.frameTimes.sum :=
  List.sum_pos _ (fun _ => trial.pos) trial.frameTimes_ne_nil

/-- The rates are positive. -/
theorem rates_pos : 0 < trial.metrics.avgFps ∧ 0 < trial.metrics.onePercentLowFps ∧
    0 < trial.metrics.zeroPointOnePercentLowFps := by
  obtain ⟨m, hm, hread⟩ :=
    computeMetrics_readOf num trial.warmup_lt trial.sum_pos .default none
  have hmetrics : m = trial.metrics :=
    Except.ok.inj (Option.some.inj (hm.symm.trans trial.computed))
  obtain ⟨hleast, -, -, hpercentile⟩ := timesBounded trial.frameTimes_ne_nil
  have hlo := trial.pos hleast.1
  have hrate : ∀ p, 0 < fpsOf (calculatePercentile (sortedTimes trial.frameTimes) p) := by
    intro p
    have hp := hlo.trans_le (hpercentile p).1
    rw [fpsOf_of_pos hp]
    exact div_pos (by norm_num) hp
  rw [← hmetrics, hread.onePercentLowFps, hread.zeroPointOnePercentLowFps, hread.p99, hread.p99_9,
    hread.avgFps]
  refine ⟨?_, hrate 99, hrate (999 / 10)⟩
  apply div_pos
  · exact Nat.cast_pos.mpr (List.length_pos_of_ne_nil trial.frameTimes_ne_nil)
  · exact div_pos trial.sum_pos (by norm_num)

/-- The standard deviation is not negative, and zero just for perfect pacing. -/
theorem stdDev_spec : 0 ≤ trial.metrics.frameTimeStdDevMs ∧
    (trial.metrics.frameTimeStdDevMs = 0 ↔ trial.PerfectlyPaced) := by
  rw [computeMetrics_stdDev trial.sum_pos trial.computed, ← frameTimes, PerfectlyPaced,
    ← frameVariance_eq_zero_iff]
  rcases (frameVariance_nonneg trial.frameTimes).eq_or_lt with hzero | hpos
  · rw [← hzero, num.sqrt_zero]
    exact ⟨le_refl 0, iff_of_true rfl rfl⟩
  · have hsqrt := num.sqrt_pos hpos
    exact ⟨hsqrt.le, iff_of_false hsqrt.ne' hpos.ne'⟩

end Trial

end ComputedTrial

/-! ### The divisors -/

/-- The trials as they are compared. -/
def trialRuns (trials : List (ComputedTrial num)) : List (BenchmarkMetrics K) :=
  trials.map (·.metrics.toBenchmarkMetrics)

section Divisors

variable [IsStrictOrderedRing K]

omit [FloorSemiring K] in
theorem mean_pos {xs : List K} (h : xs ≠ []) (hpos : ∀ x ∈ xs, 0 < x) : 0 < mean xs :=
  div_pos (List.sum_pos _ hpos h) (Nat.cast_pos.mpr (List.length_pos_of_ne_nil h))

/-- The mean of numbers that are not negative is zero just if they all are. -/
theorem mean_eq_zero_iff {xs : List K} (h : xs ≠ []) (hnonneg : ∀ x ∈ xs, 0 ≤ x) :
    mean xs = 0 ↔ ∀ x ∈ xs, x = 0 := by
  have hcount : (xs.length : K) ≠ 0 := by
    rw [Nat.cast_ne_zero]
    exact (List.length_pos_of_ne_nil h).ne'
  rw [mean, div_eq_zero_iff, or_iff_left hcount]
  constructor
  · intro hsum x hx
    exact List.all_zero_of_le_zero_le_of_sum_eq_zero hnonneg hsum hx
  · exact List.sum_eq_zero

/-- **The deltas are defined** unless all baseline trials are perfectly paced: the other divisors
are positive. -/
theorem deltas_defined_iff (base opt : List (ComputedTrial num)) :
    (base ≠ [] → opt ≠ [] → ∀ divisor ∈ deltaMeans (trialRuns base), divisor ≠ 0) ↔
      base = [] ∨ opt = [] ∨ ∃ trial ∈ base, ¬ trial.PerfectlyPaced := by
  by_cases hempty : base = [] ∨ opt = []
  · apply iff_of_true
    · intro hbase hopt
      exact absurd hempty (not_or.mpr ⟨hbase, hopt⟩)
    · exact hempty.elim .inl fun hopt => .inr (.inl hopt)
  obtain ⟨hbase, hopt⟩ := not_or.mp hempty
  have hrates : ∀ rate : BenchmarkMetrics K → K,
      (∀ trial : ComputedTrial num, 0 < rate trial.metrics.toBenchmarkMetrics) →
        mean ((trialRuns base).map rate) ≠ 0 := by
    intro rate hrate
    apply ne_of_gt
    apply mean_pos (by simpa [trialRuns] using hbase)
    simp [trialRuns, hrate]
  have hstd : mean (pacings (trialRuns base)) = 0 ↔ ∀ trial ∈ base, trial.PerfectlyPaced := by
    rw [mean_eq_zero_iff (by simpa [pacings, trialRuns] using hbase)]
    · simp [pacings, trialRuns, fun trial : ComputedTrial num => trial.stdDev_spec.2]
    · simp [pacings, trialRuns, fun trial : ComputedTrial num => trial.stdDev_spec.1]
  have hpaced : (∃ trial ∈ base, ¬ trial.PerfectlyPaced) ↔ mean (pacings (trialRuns base)) ≠ 0 := by
    rw [ne_eq, hstd]
    push Not
    rfl
  rw [or_iff_right hbase, or_iff_right hopt, hpaced, deltaMeans]
  simp only [List.forall_mem_cons]
  constructor
  · intro h
    exact (h hbase hopt).2.2.2.1
  · intro h _ _
    exact ⟨hrates _ fun trial => trial.rates_pos.1, hrates _ fun trial => trial.rates_pos.2.1,
      hrates _ fun trial => trial.rates_pos.2.2, h, by simp⟩

end Divisors

/-! ### Instances -/

/-- A single frame of 10 ms. -/
def singleFrame : List (FrameSample ℝ) := [⟨1, 10000, 10, none, 10⟩]

/-- A trial of a single frame is perfectly paced, so one of the deltas is not a number. -/
theorem singleFrame_delta_nan : ∃ m report,
    computeMetrics sampleNumerics singleFrame 0 = some (.ok m) ∧
    compareAbTrials sampleNumerics xorshift64 [m.toBenchmarkMetrics, m.toBenchmarkMetrics]
      [m.toBenchmarkMetrics, m.toBenchmarkMetrics] = .ok report ∧
    (∀ s ∈ singleFrame, 0 < s.frameTimeMs) ∧
    mean (pacings [m.toBenchmarkMetrics, m.toBenchmarkMetrics]) = 0 ∧
    report.deltaPacingStdDevPercent = .nan := by
  have htimes : activeFrameTimes singleFrame 0 = [10] := rfl
  have hsum : 0 < (activeFrameTimes singleFrame 0).sum := by
    rw [htimes, List.sum_singleton]
    norm_num
  obtain ⟨m, hm, -⟩ := computeMetrics_readOf sampleNumerics (by decide) hsum .default none
  have hstd : m.frameTimeStdDevMs = 0 := by
    rw [computeMetrics_stdDev hsum hm, htimes, frameVariance_eq_zero_iff.mpr (by simp),
      sampleNumerics.sqrt_zero]
  have hmean : mean (pacings [m.toBenchmarkMetrics, m.toBenchmarkMetrics]) = 0 := by
    simp [mean, pacings, hstd]
  obtain ⟨report, hreport⟩ : ∃ report, compareAbTrials sampleNumerics xorshift64
      [m.toBenchmarkMetrics, m.toBenchmarkMetrics] [m.toBenchmarkMetrics, m.toBenchmarkMetrics] =
        .ok report := compareAbTrials_ok (le_refl 2) (le_refl 2)
  refine ⟨m, report, hm, hreport, by simp [singleFrame], hmean, ?_⟩
  have hdeltas := (compareAbTrials_report hreport).deltas
  simp only [deltaMeans, List.zipWith_cons_cons, List.cons.injEq] at hdeltas
  rw [hdeltas.2.2.2.1, hmean, deltaPercent, Extended.div]
  simp [Extended.scale]

theorem sampleFrames_deltas_defined : ∃ trial : ComputedTrial sampleNumerics,
    trial.samples = sampleFrames ∧ ∀ divisor ∈ deltaMeans (trialRuns [trial]), divisor ≠ 0 := by
  have htimes : activeFrameTimes sampleFrames 1 = [16, 5] := rfl
  have hsum : 0 < (activeFrameTimes sampleFrames 1).sum := by
    norm_num [htimes]
  obtain ⟨m, hm, -⟩ := computeMetrics_readOf sampleNumerics (by decide) hsum .default none
  let trial : ComputedTrial sampleNumerics := {
    samples := sampleFrames
    warmupFrames := 1
    metrics := m
    frameTimes_pos := by simp [sampleFrames]
    computed := hm }
  have hpaced : ¬ trial.PerfectlyPaced := by
    intro h
    have heq := h 16 (by simp [trial, ComputedTrial.frameTimes, htimes]) 5
      (by simp [trial, ComputedTrial.frameTimes, htimes])
    norm_num at heq
  refine ⟨trial, rfl, ?_⟩
  exact (deltas_defined_iff [trial] [trial]).mpr
    (.inr (.inr ⟨trial, List.mem_singleton_self trial, hpaced⟩)) (by simp) (by simp)

end ValOpt
