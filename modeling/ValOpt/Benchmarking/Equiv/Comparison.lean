import Mathlib.Algebra.Order.Archimedean.Real.Basic
import Mathlib.Analysis.Real.Sqrt
import Mathlib.Data.List.MinMax
import ValOpt.Benchmarking.Equiv.Bootstrap

/-!
# The verdict of a comparison

`compareAbTrials_report` says what a report holds of the tests it is made of, with their defaults
where they fail.  A verdict in favour of the optimized trials takes a positive lower end of the
bootstrap interval, and so trials in pairs (the default of a bootstrap that fails is not positive),
one of which improved (`verdict_sound`), and never comes with one in favour of the baseline
(`verdict_exclusive`).
-/

namespace ValOpt

open Statistics

variable {K : Type} [Field K] [LinearOrder K] {num : Numerics K} {rng : Generator}
  {base opt : List (BenchmarkMetrics K)} {report : ABComparisonReport K}

/-! ### Reports -/

/-- Welch's test returns for two samples of at least 2, and only for these. -/
theorem welchTTest_ok_iff (a b : List K) :
    (∃ r, welchTTest num a b = .ok r) ↔ 2 ≤ a.length ∧ 2 ≤ b.length := by
  rw [welchTTest, welchTTestWith]
  dsimp only
  split
  next h =>
    constructor
    · rintro ⟨_, ⟨⟩⟩
    · omega
  next h =>
    have hlen : 2 ≤ a.length ∧ 2 ≤ b.length := by omega
    apply iff_of_true _ hlen
    split
    · split <;> exact ⟨_, rfl⟩
    · exact ⟨_, rfl⟩

section Divisors

variable [IsStrictOrderedRing K] {a b : List K}

theorem variance_nonneg (h : 2 ≤ a.length) : 0 ≤ variance a := by
  have hlen : (2 : K) ≤ a.length := by exact_mod_cast h
  apply div_nonneg _ (by linarith)
  apply List.sum_nonneg
  intro x hx
  obtain ⟨y, -, rfl⟩ := List.mem_map.mp hx
  exact sq_nonneg _

theorem length_sub_one_pos {xs : List K} (h : 2 ≤ xs.length) : (0 : K) < xs.length - 1 := by
  have hlen : (2 : K) ≤ xs.length := by exact_mod_cast h
  linarith

theorem variance_div_length_nonneg {xs : List K} (h : 2 ≤ xs.length) :
    0 ≤ variance xs / xs.length :=
  div_nonneg (variance_nonneg h) (Nat.cast_nonneg _)

/-- The root of zero is zero, so a positive standard error is that of a positive number. -/
theorem squaredError_pos (ha : 2 ≤ a.length) (hb : 2 ≤ b.length)
    (h : 0 < num.sqrt (variance a / a.length + variance b / b.length)) :
    0 < variance a / a.length + variance b / b.length := by
  apply lt_of_le_of_ne
  · exact add_nonneg (variance_div_length_nonneg ha) (variance_div_length_nonneg hb)
  · intro hzero
    rw [← hzero, num.sqrt_zero] at h
    exact lt_irrefl 0 h

/-- Where Welch's test divides by the standard error, the divisor of its degrees of freedom is not
zero either. -/
theorem welch_divisor_pos (ha : 2 ≤ a.length) (hb : 2 ≤ b.length)
    (h : 0 < num.sqrt (variance a / a.length + variance b / b.length)) :
    0 < (variance a / a.length) ^ 2 / (a.length - 1 : K) +
      (variance b / b.length) ^ 2 / (b.length - 1 : K) :=
  satterthwaite_divisor_pos (variance_div_length_nonneg hb) (squaredError_pos ha hb h)
    (length_sub_one_pos ha) (length_sub_one_pos hb)

end Divisors

/-- The 1% lows of the trials. -/
def onePercentLows (runs : List (BenchmarkMetrics K)) : List K := runs.map (·.onePercentLowFps)

theorem onePercentLows_pos (hbase : ∀ r ∈ base, 0 < r.onePercentLowFps) :
    ∀ x ∈ onePercentLows base, 0 < x := by
  intro x hx
  obtain ⟨r, hr, rfl⟩ := List.mem_map.mp hx
  exact hbase r hr

variable [FloorSemiring K]

/-- The interval of a comparison, with its default. -/
def comparisonCi (rng : Generator) (base opt : List (BenchmarkMetrics K)) : K × K :=
  (bootstrapPairedPercentageDeltaCi rng (onePercentLows base) (onePercentLows opt) 2000
    (95 / 100)).toOption.getD (0, 0)

/-- What a report says of the trials. -/
structure ComparisonSpec (num : Numerics K) (rng : Generator) (base opt : List (BenchmarkMetrics K))
    (report : ABComparisonReport K) : Prop where
  two_le_base : 2 ≤ base.length
  two_le_opt : 2 ≤ opt.length
  provenance : report.provenance = (base.head?.map (·.provenance)).getD .default
  ci : report.bootstrapOnePercentCi = comparisonCi rng base opt
  pos_of_significant : report.isStatisticallySignificant = true → 0 < report.bootstrapOnePercentCi.1
  significant_of_threshold :
    report.meetsThreshold = true → report.isStatisticallySignificant = true
  recommendation : report.recommendation = recommend num report.meetsThreshold
    report.isStatisticallySignificant report.deltaOnePercentLowPercent report.cohensD

/-- The pacing of the trials. -/
def pacings (runs : List (BenchmarkMetrics K)) : List K := runs.map (·.frameTimeStdDevMs)

/-- The p-value of a comparison's test of the variances, with its default. -/
def leveneP (num : Numerics K) (base opt : List (BenchmarkMetrics K)) : Extended K :=
  ((leveneVarianceTest num (pacings base) (pacings opt)).toOption.getD (0, .finite 1)).2

/-- The means that the deltas are made of, those of the baseline as divisors. -/
def deltaMeans (runs : List (BenchmarkMetrics K)) : List K :=
  [mean (runs.map (·.avgFps)), mean (onePercentLows runs),
    mean (runs.map (·.zeroPointOnePercentLowFps)), mean (pacings runs)]

/-- What a report says of the trials, with its verdict on the variance and its deltas. -/
structure ReportSpec (num : Numerics K) (rng : Generator) (base opt : List (BenchmarkMetrics K))
    (report : ABComparisonReport K) : Prop extends ComparisonSpec num rng base opt report where
  reduced : report.isVarianceSignificantlyReduced =
    ((leveneP num base opt).lt (5 / 100) && decide (mean (pacings opt) < mean (pacings base)))
  deltas : [report.deltaAvgFpsPercent, report.deltaOnePercentLowPercent,
      report.deltaZeroOnePercentLowPercent, report.deltaPacingStdDevPercent] =
    List.zipWith deltaPercent (deltaMeans base) (deltaMeans opt)

theorem compareAbTrials_report (h : compareAbTrials num rng base opt = .ok report) :
    ReportSpec num rng base opt report := by
  rw [compareAbTrials] at h
  split at h
  next => exact absurd h (by simp [throw, throwThe, MonadExceptOf.throw, bind, Except.bind])
  next =>
    cases hwelch : welchTTest num (onePercentLows base) (onePercentLows opt) with
    | error e =>
      rw [onePercentLows, onePercentLows] at hwelch
      simp [hwelch, bind, Except.bind] at h
    | ok r =>
      have hlen := (welchTTest_ok_iff _ _).mp ⟨r, hwelch⟩
      rw [onePercentLows, onePercentLows, List.length_map, List.length_map] at hlen
      rw [onePercentLows, onePercentLows] at hwelch
      simp only [hwelch, bind, Except.bind, pure, Except.pure, Except.ok.injEq] at h
      rw [← h]
      exact {
        two_le_base := hlen.1
        two_le_opt := hlen.2
        provenance := rfl
        ci := rfl
        pos_of_significant := fun hs => by
          simp only [Bool.and_eq_true, decide_eq_true_eq] at hs
          exact hs.2
        significant_of_threshold := fun ht => (Bool.and_eq_true_iff.mp ht).1
        recommendation := rfl
        reduced := rfl
        deltas := rfl }

/-- The fields of a report that are read off the trials. -/
structure Summary (base opt : List (BenchmarkMetrics K))
    (report : ABComparisonReport K) : Prop where
  baseline : [report.baselineAvgFps, report.baselineOnePercentLow, report.baselineZeroOnePercentLow,
    report.baselinePacingStdDev] = deltaMeans base
  optimized : [report.optimizedAvgFps, report.optimizedOnePercentLow,
    report.optimizedZeroOnePercentLow, report.optimizedPacingStdDev] = deltaMeans opt
  trialsCount : report.trialsCount = min base.length opt.length
  environment : report.environment = (opt.getLast?.bind (·.environment)).or
    (base.getLast?.bind (·.environment))

theorem compareAbTrials_summary (h : compareAbTrials num rng base opt = .ok report) :
    Summary base opt report := by
  rw [compareAbTrials] at h
  split at h
  next => exact absurd h (by simp [throw, throwThe, MonadExceptOf.throw, bind, Except.bind])
  next =>
    cases hwelch : welchTTest num (onePercentLows base) (onePercentLows opt) with
    | error e =>
      rw [onePercentLows, onePercentLows] at hwelch
      simp [hwelch, bind, Except.bind] at h
    | ok r =>
      rw [onePercentLows, onePercentLows] at hwelch
      simp only [hwelch, bind, Except.bind, pure, Except.pure, Except.ok.injEq] at h
      rw [← h]
      constructor <;> rfl

theorem compareAbTrials_spec (h : compareAbTrials num rng base opt = .ok report) :
    ComparisonSpec num rng base opt report := (compareAbTrials_report h).toComparisonSpec

/-- A comparison returns for two trials or more on both sides. -/
theorem compareAbTrials_ok (hbase : 2 ≤ base.length) (hopt : 2 ≤ opt.length) :
    ∃ report, compareAbTrials num rng base opt = .ok report := by
  obtain ⟨r, hr⟩ : ∃ r, welchTTest num (onePercentLows base) (onePercentLows opt) = .ok r := by
    rw [welchTTest_ok_iff, onePercentLows, onePercentLows, List.length_map, List.length_map]
    exact ⟨hbase, hopt⟩
  have hempty : (base.isEmpty || opt.isEmpty) = false := by
    rw [Bool.or_eq_false_iff, List.isEmpty_eq_false_iff, List.isEmpty_eq_false_iff]
    exact ⟨List.length_pos_iff.mp (by omega), List.length_pos_iff.mp (by omega)⟩
  rw [onePercentLows, onePercentLows] at hr
  rw [compareAbTrials, hempty]
  simp only [hr, bind, Except.bind, Bool.false_eq_true, if_false, pure, Except.pure]
  exact ⟨_, rfl⟩

/-- A recommendation in favour of the optimized trials. -/
def Favourable (recommendation : String) : Prop :=
  "ACCEPTED".toList <+: recommendation.toList ∨ "BORDERLINE".toList <+: recommendation.toList

/-- Only significant results are recommended. -/
theorem ComparisonSpec.significant_of_favourable (h : ComparisonSpec num rng base opt report)
    (hfav : Favourable report.recommendation) : report.isStatisticallySignificant = true := by
  by_contra hsig
  have hthreshold : ¬ report.meetsThreshold = true := mt h.significant_of_threshold hsig
  rw [h.recommendation, recommend, if_neg hthreshold, eq_false_of_ne_true hsig, Bool.false_and,
    if_neg Bool.false_ne_true] at hfav
  split at hfav
  · revert hfav
    rw [Favourable]
    decide
  · revert hfav
    rw [Favourable]
    decide

/-! ### Instances -/

/-- Real numbers with their square roots.  Every statistic has the p-value 0. -/
noncomputable def sampleNumerics : Numerics ℝ where
  sqrt := Real.sqrt
  sqrt_zero := Real.sqrt_zero
  sqrt_pos := Real.sqrt_pos.mpr
  regularizedIncompleteBeta _ _ _ := .finite 0
  standardNormalCdf _ := 1
  toFixed2 _ := "0.00"

/-- A trial with one number for all its statistics. -/
def sampleRun (provenance : TelemetryProvenance) (fps : ℝ) : BenchmarkMetrics ℝ where
  provenance
  environment := none
  avgFps := fps
  onePercentLowFps := fps
  zeroPointOnePercentLowFps := fps
  frameTimeStdDevMs := fps

/-- Two trials. -/
def samplePair (provenance : TelemetryProvenance) (fps : ℝ) : List (BenchmarkMetrics ℝ) :=
  [sampleRun provenance fps, sampleRun provenance fps]

theorem samplePair_pos (provenance : TelemetryProvenance) {fps : ℝ} (h : 0 < fps) :
    ∀ r ∈ samplePair provenance fps, 0 < r.onePercentLowFps := by
  intro r hr
  rcases List.mem_pair.mp hr with rfl | rfl <;> exact h

theorem compare_samplePair (p p' : TelemetryProvenance) (fps fps' : ℝ) : ∃ report,
    compareAbTrials sampleNumerics xorshift64 (samplePair p fps) (samplePair p' fps') =
      .ok report :=
  compareAbTrials_ok (le_refl 2) (le_refl 2)

/-! ### Soundness -/

/-- A positive lower end is that of a bootstrap that returned. -/
theorem bootstrap_of_comparisonCi_pos (h : 0 < (comparisonCi rng base opt).1) :
    bootstrapPairedPercentageDeltaCi rng (onePercentLows base) (onePercentLows opt) 2000
      (95 / 100) =
      .ok (comparisonCi rng base opt) := by
  rw [comparisonCi] at h ⊢
  cases hci : bootstrapPairedPercentageDeltaCi rng (onePercentLows base) (onePercentLows opt) 2000
    (95 / 100) with
  | error e =>
    rw [hci] at h
    exact absurd h (lt_irrefl 0)
  | ok ci => rfl

/-- The percentage deltas of the pairs of trials. -/
def pairDeltas (base opt : List (BenchmarkMetrics K)) : List K :=
  List.zipWith percentChange (onePercentLows base) (onePercentLows opt)

variable [IsStrictOrderedRing K]

/-- The interval of a comparison is ordered, also where it is the default. -/
theorem comparisonCi_ordered (rng : Generator) (base opt : List (BenchmarkMetrics K)) :
    (comparisonCi rng base opt).1 ≤ (comparisonCi rng base opt).2 := by
  rw [comparisonCi]
  cases h : bootstrapPairedPercentageDeltaCi rng (onePercentLows base) (onePercentLows opt) 2000
    (95 / 100) with
  | error e => exact le_refl _
  | ok ci => exact bootstrap_ordered (by norm_num) h

/-- The interval of trials in pairs is within the bounds of the deltas of the pairs. -/
theorem comparisonCi_within (rng : Generator) (hbase : ∀ r ∈ base, 0 < r.onePercentLowFps)
    (htwo : 2 ≤ base.length) (hlen : base.length = opt.length) {lo hi : K}
    (hall : ∀ d ∈ pairDeltas base opt, lo ≤ d ∧ d ≤ hi) :
    (lo ≤ (comparisonCi rng base opt).1 ∧ (comparisonCi rng base opt).1 ≤ hi) ∧
      lo ≤ (comparisonCi rng base opt).2 ∧ (comparisonCi rng base opt).2 ≤ hi := by
  have hlows : (onePercentLows base).length = (onePercentLows opt).length := by
    rw [onePercentLows, onePercentLows, List.length_map, List.length_map, hlen]
  have hlows_two : 2 ≤ (onePercentLows base).length := by rwa [onePercentLows, List.length_map]
  have hpairs : ∀ i < (onePercentLows base).length,
      ChangeWithin lo hi ((onePercentLows base).getD i 0) ((onePercentLows opt).getD i 0) := by
    intro i hi
    rw [changeWithin_iff (onePercentLows_pos hbase _ (getD_mem hi))]
    apply hall
    rw [List.getD_eq_getElem _ _ hi, List.getD_eq_getElem _ _ (hlows ▸ hi)]
    have hmem := List.getElem_mem (l := pairDeltas base opt) (n := i) (by
      rw [pairDeltas, List.length_zipWith]
      omega)
    simpa only [pairDeltas, List.getElem_zipWith] using hmem
  obtain ⟨ci, hci⟩ : ∃ ci, bootstrapPairedPercentageDeltaCi rng (onePercentLows base)
      (onePercentLows opt) 2000 (95 / 100) = .ok ci := bootstrap_returns hlows hlows_two _ _
  rw [comparisonCi, hci]
  exact bootstrap_within (by norm_num) (onePercentLows_pos hbase) hpairs hci

omit [FloorSemiring K] in
/-- A delta above zero is that of a pair that improved. -/
theorem improved_of_pairDeltas_pos (hbase : ∀ r ∈ base, 0 < r.onePercentLowFps) {d : K}
    (hd : d ∈ pairDeltas base opt) (hpos : 0 < d) :
    ∃ pair ∈ base.zip opt, pair.1.onePercentLowFps < pair.2.onePercentLowFps := by
  rw [pairDeltas, onePercentLows, onePercentLows, List.zipWith_map,
    ← List.map_uncurry_zip_eq_zipWith]
    at hd
  obtain ⟨pair, hpair, rfl⟩ := List.mem_map.mp hd
  exact ⟨pair, hpair, (percentChange_pos_iff (hbase _ (List.of_mem_zip hpair).1)).mp hpos⟩

/-- The interval of trials in pairs is between the least and the greatest delta of a pair. -/
theorem comparisonCi_between (hbase : ∀ r ∈ base, 0 < r.onePercentLowFps) (htwo : 2 ≤ base.length)
    (hlen : base.length = opt.length) {bound : K}
    (hbound : bound ∈ [(comparisonCi rng base opt).1, (comparisonCi rng base opt).2]) :
    (pairDeltas base opt).minimum ≤ bound ∧ bound ≤ (pairDeltas base opt).maximum := by
  have hpos : 0 < (pairDeltas base opt).length := by
    rw [pairDeltas, List.length_zipWith, onePercentLows, onePercentLows, List.length_map,
      List.length_map, ← hlen, min_self]
    exact Nat.zero_lt_of_lt htwo
  have hwithin := comparisonCi_within rng hbase htwo hlen fun d hd =>
    ⟨List.minimum_of_length_pos_le_of_mem hd hpos, List.le_maximum_of_length_pos_of_mem hd hpos⟩
  rw [← List.coe_minimum_of_length_pos hpos, ← List.coe_maximum_of_length_pos hpos,
    WithTop.coe_le_coe, WithBot.coe_le_coe]
  rcases List.mem_pair.mp hbound with rfl | rfl
  · exact hwithin.1
  · exact hwithin.2

/-- The interval of a comparison is ordered and, for trials in pairs, between the least and the
greatest delta of a pair; a verdict in favour of the optimized trials takes trials in pairs, one of
which improved. -/
theorem verdict_sound (hbase : ∀ r ∈ base, 0 < r.onePercentLowFps)
    (h : compareAbTrials num rng base opt = .ok report) :
    report.bootstrapOnePercentCi.1 ≤ report.bootstrapOnePercentCi.2 ∧
    (base.length = opt.length →
      ∀ bound ∈ [report.bootstrapOnePercentCi.1, report.bootstrapOnePercentCi.2],
        (pairDeltas base opt).minimum ≤ bound ∧ bound ≤ (pairDeltas base opt).maximum) ∧
    (report.isStatisticallySignificant = true ∨ Favourable report.recommendation →
      base.length = opt.length ∧
        ∃ pair ∈ base.zip opt, pair.1.onePercentLowFps < pair.2.onePercentLowFps) := by
  have hspec := compareAbTrials_spec h
  have hbetween : base.length = opt.length → ∀ bound ∈ [report.bootstrapOnePercentCi.1,
      report.bootstrapOnePercentCi.2],
      (pairDeltas base opt).minimum ≤ bound ∧ bound ≤ (pairDeltas base opt).maximum := by
    intro hlen bound hbound
    rw [hspec.ci] at hbound
    exact comparisonCi_between hbase hspec.two_le_base hlen hbound
  refine ⟨hspec.ci ▸ comparisonCi_ordered rng base opt, hbetween, ?_⟩
  intro hverdict
  have hsig : report.isStatisticallySignificant = true :=
    hverdict.elim id hspec.significant_of_favourable
  have hpos := hspec.pos_of_significant hsig
  have hlen : base.length = opt.length := by
    rw [hspec.ci] at hpos
    have hlows := (bootstrap_ok (bootstrap_of_comparisonCi_pos hpos)).1
    rwa [onePercentLows, onePercentLows, List.length_map, List.length_map] at hlows
  -- The greatest delta is not below the lower end, and is that of a pair.
  have hmax := (hbetween hlen _ List.mem_cons_self).2
  obtain ⟨d, hd⟩ := WithBot.ne_bot_iff_exists.mp (ne_bot_of_le_ne_bot WithBot.coe_ne_bot hmax)
  rw [← hd, WithBot.coe_le_coe] at hmax
  exact ⟨hlen, improved_of_pairDeltas_pos hbase (List.maximum_mem hd.symm) (hpos.trans_le hmax)⟩

theorem verdict_sound_pair : ∃ report, compareAbTrials sampleNumerics xorshift64
    (samplePair .default 100) (samplePair .default 110) = .ok report ∧
      report.bootstrapOnePercentCi = (10, 10) := by
  obtain ⟨report, h⟩ := compare_samplePair .default .default 100 110
  have hbetween := (verdict_sound (samplePair_pos .default (by norm_num)) h).2.1 rfl
  have hdeltas : pairDeltas (samplePair .default 100) (samplePair .default 110) = [10, 10] := by
    norm_num [pairDeltas, samplePair, onePercentLows, sampleRun, percentChange]
  have hminimum : ([10, 10] : List ℝ).minimum = (10 : ℝ) := by simp [List.minimum_cons]
  have hmaximum : ([10, 10] : List ℝ).maximum = (10 : ℝ) := by simp [List.maximum_cons]
  have hten : ∀ bound ∈ [report.bootstrapOnePercentCi.1, report.bootstrapOnePercentCi.2],
      bound = 10 := by
    intro bound hbound
    obtain ⟨hmin, hmax⟩ := hbetween bound hbound
    rw [hdeltas, hminimum, WithTop.coe_le_coe] at hmin
    rw [hdeltas, hmaximum, WithBot.coe_le_coe] at hmax
    exact le_antisymm hmax hmin
  refine ⟨report, h, Prod.ext ?_ ?_⟩
  · exact hten _ List.mem_cons_self
  · exact hten _ (List.mem_cons_of_mem _ List.mem_cons_self)

/-! ### Exclusion -/

/-- The verdict is never in favour of both sides. -/
theorem verdict_exclusive {runsA runsB : List (BenchmarkMetrics K)}
    (hA : ∀ r ∈ runsA, 0 < r.onePercentLowFps) (hB : ∀ r ∈ runsB, 0 < r.onePercentLowFps) :
    ¬ ((∃ report, compareAbTrials num rng runsA runsB = .ok report ∧
        report.isStatisticallySignificant = true) ∧
      ∃ report, compareAbTrials num rng runsB runsA = .ok report ∧
        report.isStatisticallySignificant = true) := by
  intro ⟨⟨report, h, hsig⟩, report', h', hsig'⟩
  have hpos := (compareAbTrials_spec h).pos_of_significant hsig
  have hpos' := (compareAbTrials_spec h').pos_of_significant hsig'
  rw [(compareAbTrials_spec h).ci] at hpos
  rw [(compareAbTrials_spec h').ci] at hpos'
  exact bootstrap_swap (onePercentLows_pos hA) (onePercentLows_pos hB)
    (bootstrap_of_comparisonCi_pos hpos) (bootstrap_of_comparisonCi_pos hpos') ⟨hpos, hpos'⟩

theorem verdict_exclusive_pair :
    ¬ ((∃ report, compareAbTrials sampleNumerics xorshift64 (samplePair .default 100)
        (samplePair .default 110) = .ok report ∧ report.isStatisticallySignificant = true) ∧
      ∃ report, compareAbTrials sampleNumerics xorshift64 (samplePair .default 110)
        (samplePair .default 100) = .ok report ∧ report.isStatisticallySignificant = true) :=
  verdict_exclusive (samplePair_pos .default (by norm_num)) (samplePair_pos .default (by norm_num))

/-! ### Provenance -/

/-- Whether the runs have the source that a report states, if it states a real one. -/
def SourceSound (provenance : TelemetryProvenance) (runs : List (BenchmarkMetrics K)) : Prop :=
  provenance.source ≠ .syntheticFixture → ∀ r ∈ runs, r.provenance.source = provenance.source

/-- Whether the runs were measured directly, if a report states this. -/
def DirectSound (provenance : TelemetryProvenance) (runs : List (BenchmarkMetrics K)) : Prop :=
  provenance.isDirectlyMeasured = true → ∀ r ∈ runs, r.provenance.isDirectlyMeasured = true

omit [IsStrictOrderedRing K] in
/-- The report states the provenance of the first baseline run, so that it is sound just if all runs
are like it, as far as it is real and directly measured.  The second half reads both at once. -/
theorem provenance_sound_iff (h : compareAbTrials num rng base opt = .ok report) :
    ((SourceSound report.provenance (base ++ opt) ∧ DirectSound report.provenance (base ++ opt)) ↔
      ∃ first ∈ base.head?,
        (first.provenance.source = .syntheticFixture ∨
          ∀ r ∈ base ++ opt, r.provenance.source = first.provenance.source) ∧
        (first.provenance.isDirectlyMeasured = false ∨
          ∀ r ∈ base ++ opt, r.provenance.isDirectlyMeasured = true)) ∧
    ((report.provenance.source ≠ .syntheticFixture ∨ report.provenance.isDirectlyMeasured = true →
        ∀ r ∈ base ++ opt, r.provenance.source = report.provenance.source ∧
          r.provenance.isDirectlyMeasured = true) ↔
      ∃ first ∈ base.head?,
        (first.provenance.source = .syntheticFixture ∧
          first.provenance.isDirectlyMeasured = false) ∨
        ∀ r ∈ base ++ opt, r.provenance.source = first.provenance.source ∧
          r.provenance.isDirectlyMeasured = true) := by
  have hspec := compareAbTrials_spec h
  have hprovenance := hspec.provenance
  obtain ⟨first, rest, rfl⟩ := List.exists_cons_of_length_pos
    (Nat.zero_lt_of_lt hspec.two_le_base)
  have hfirst : report.provenance = first.provenance := hprovenance
  rw [hfirst]
  simp only [List.head?_cons, Option.mem_def, Option.some.injEq, exists_eq_left', SourceSound,
    DirectSound]
  constructor
  · rw [Ne, imp_iff_or_not, imp_iff_or_not, not_not, Bool.not_eq_true]
    tauto
  · rw [imp_iff_or_not, not_or, not_not, Bool.not_eq_true]
    tauto

/-- Synthetic baseline trials make every report sound. -/
theorem provenance_sound_synthetic : ∃ report, compareAbTrials sampleNumerics xorshift64
    (samplePair (.synthetic 1000) 100) (samplePair .default 110) = .ok report ∧
      SourceSound report.provenance
        (samplePair (.synthetic 1000) 100 ++ samplePair .default 110) := by
  obtain ⟨report, h⟩ := compare_samplePair (.synthetic 1000) .default 100 110
  refine ⟨report, h, ((provenance_sound_iff h).1.mpr ?_).1⟩
  exact ⟨sampleRun (.synthetic 1000) 100, rfl, Or.inl rfl, Or.inl rfl⟩

/-- Real baseline trials and synthetic optimized ones are reported as real and directly measured. -/
theorem mixed_suite_reported_real : ∃ report, compareAbTrials sampleNumerics xorshift64
    (samplePair .default 100) (samplePair (.synthetic 1000) 110) = .ok report ∧
      report.provenance.source ≠ .syntheticFixture ∧ report.provenance.isDirectlyMeasured = true ∧
      ∃ r ∈ samplePair (.synthetic 1000) 110,
        r.provenance.source ≠ report.provenance.source ∧
        r.provenance.isDirectlyMeasured = false := by
  obtain ⟨report, h⟩ := compare_samplePair .default (.synthetic 1000) 100 110
  have hprovenance : report.provenance = .default := (compareAbTrials_spec h).provenance
  refine ⟨report, h, ?_⟩
  rw [hprovenance]
  exact ⟨by decide, rfl, sampleRun (.synthetic 1000) 110, List.mem_cons_self, by decide, rfl⟩

end ValOpt
