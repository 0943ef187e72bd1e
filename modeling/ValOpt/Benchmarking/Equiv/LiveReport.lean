import ValOpt.Benchmarking.Equiv.AbRunner

/-!
# The numbers in the report of a live run

The sanity filter of the callback bounds the time of every frame that is recorded, and with it all
that a report says (`runLive_report`): the rates, their changes, the interval of the bootstrap, and
the part of the time in which the processor was busy.
-/

namespace ValOpt

open Effect Statistics

variable {K : Type} [Field K] [LinearOrder K] [IsStrictOrderedRing K] [FloorSemiring K]

/-! ### The state of the host -/

omit [FloorSemiring K] in
/-- The part of the time is a percentage, whatever the counters say. -/
theorem utilization_mem (before after : SystemTimes) :
    0 ≤ (before.utilization after : K) ∧ (before.utilization after : K) ≤ 100 := by
  rw [SystemTimes.utilization]
  split
  · next h =>
    obtain ⟨hpos, hle⟩ := h
    set total := saturatingSub (filetimeToU64 after.kernel) (filetimeToU64 before.kernel) +
      saturatingSub (filetimeToU64 after.user) (filetimeToU64 before.user)
    set idle := saturatingSub (filetimeToU64 after.idle) (filetimeToU64 before.idle)
    have hpos' : (0 : K) < (total.toNat : K) := by
      rw [Nat.cast_pos]
      exact UInt64.lt_iff_toNat_lt.mp hpos
    have hactive : ((total - idle).toNat : K) ≤ (total.toNat : K) := by
      rw [Nat.cast_le, UInt64.toNat_sub_of_le _ _ hle]
      omega
    have hratio : ((total - idle).toNat : K) / (total.toNat : K) ≤ 1 :=
      (div_le_one hpos').mpr hactive
    have hnonneg : (0 : K) ≤ ((total - idle).toNat : K) / (total.toNat : K) := by positivity
    constructor
    · positivity
    · rw [Nat.cast_ofNat]
      linarith
  · norm_num

/-- The utilization that is sampled is a percentage. -/
theorem sampledUtilization_mem (host : HostReadings) :
    0 ≤ (sampleEnvironmentalTelemetry host : EnvironmentalTelemetry K).cpuUtilizationPercent ∧
    (sampleEnvironmentalTelemetry host : EnvironmentalTelemetry K).cpuUtilizationPercent ≤ 100 := by
  have hround {x : K} (hx : 0 ≤ x ∧ x ≤ 100) :
      0 ≤ roundHalfUp (x * (10 : ℕ)) / (10 : ℕ) ∧ roundHalfUp (x * (10 : ℕ)) / (10 : ℕ) ≤ 100 := by
    have hfloor : ⌊x * (10 : ℕ) + 1 / (2 : ℕ)⌋₊ ≤ 1000 := by
      rw [← Nat.lt_succ_iff, Nat.floor_lt']
      · push_cast
        linarith [hx.2]
      · omega
    have hcast : ((⌊x * (10 : ℕ) + 1 / (2 : ℕ)⌋₊ : ℕ) : K) ≤ 1000 := by exact_mod_cast hfloor
    rw [roundHalfUp]
    constructor
    · positivity
    · rw [div_le_iff₀ (by norm_num)]
      push_cast at hcast ⊢
      linarith
  apply hround
  rcases host.times with _ | before <;> rcases host.timesAfter with _ | after
  case some.some => exact utilization_mem before after
  all_goals norm_num

/-! ### The rates of a trial -/

/-- The rates that the sanity filter lets pass. -/
def SaneRate (fps : K) : Prop := 1 / 5 < fps ∧ fps < 20000

omit [FloorSemiring K] in
theorem saneRate_fpsOf {t : K} (h : isSane t) : SaneRate (fpsOf t) := by
  have hpos := isSane_pos h
  rw [isSane, Bool.and_eq_true, decide_eq_true_eq, decide_eq_true_eq] at h
  rw [fpsOf_of_pos hpos, SaneRate]
  constructor
  · rw [div_lt_div_iff₀ (by norm_num) hpos]
    linarith [h.2]
  · rw [div_lt_iff₀ hpos]
    linarith [h.1]

omit [FloorSemiring K] in
/-- The mean of rates that are let pass. -/
theorem saneRate_mean {xs : List K} (hne : xs ≠ []) (h : ∀ x ∈ xs, SaneRate x) :
    SaneRate (mean xs) := by
  have hlength : (0 : K) < xs.length := Nat.cast_pos.mpr (List.length_pos_of_ne_nil hne)
  have hsum : (xs.map fun _ => (1 / 5 : K)).sum < xs.sum ∧
      xs.sum < (xs.map fun _ => (20000 : K)).sum := by
    obtain ⟨x, hx⟩ := List.exists_mem_of_ne_nil xs hne
    constructor
    · nth_rewrite 2 [← List.map_id xs]
      exact List.sum_lt_sum _ _ (fun i hi => (h i hi).1.le) ⟨x, hx, (h x hx).1⟩
    · nth_rewrite 1 [← List.map_id xs]
      exact List.sum_lt_sum _ _ (fun i hi => (h i hi).2.le) ⟨x, hx, (h x hx).2⟩
  rw [List.map_const', List.map_const', List.sum_replicate, List.sum_replicate, nsmul_eq_mul,
    nsmul_eq_mul] at hsum
  rw [mean, SaneRate, lt_div_iff₀ hlength, div_lt_iff₀ hlength, mul_comm (1 / 5 : K),
    mul_comm (20000 : K)]
  exact hsum

omit [IsStrictOrderedRing K] in
/-- The metrics carry the provenance and the environment that were handed in. -/
theorem computeMetrics_labels {num : Numerics K} {samples : List (FrameSample K)}
    {warmupFrames : ℕ} {provenance : TelemetryProvenance}
    {environment : Option (EnvironmentalTelemetry K)} {m : ComputedMetrics K}
    (h : computeMetricsWithProvenance num samples warmupFrames provenance environment =
      some (.ok m)) : m.provenance = provenance ∧ m.environment = environment := by
  rw [computeMetricsWithProvenance] at h
  split at h
  · cases h
  · by_cases hnil : (samples.drop warmupFrames).map (·.frameTimeMs) = []
    · simp only [if_pos hnil] at h
      cases h
    · simp only [if_neg hnil, Option.bind_eq_bind, Option.bind_eq_some_iff] at h
      obtain ⟨avgFps, -, frameTimeMeanMs, -, h⟩ := h
      split at h <;> obtain ⟨variance, -, hm⟩ := Option.bind_eq_some_iff.mp h <;>
        rw [← Except.ok.inj (Option.some.inj hm)] <;> exact ⟨rfl, rfl⟩

/-- What the metrics of a live trial satisfy. -/
structure LiveMetrics (m : ComputedMetrics K) : Prop where
  avgFps : SaneRate m.avgFps
  onePercentLowFps : SaneRate m.onePercentLowFps
  zeroPointOnePercentLowFps : SaneRate m.zeroPointOnePercentLowFps
  source : m.provenance.source = .realEtwPresentation
  measured : m.provenance.isDirectlyMeasured = true
  environment : ∃ host, m.environment = some (sampleEnvironmentalTelemetry host)

variable {σ : Type} {bench : LiveBench σ} {num : Numerics K} {config : ABBenchmarkConfig K}
  {trial : ℕ} {b : Bool} {m : ComputedMetrics K}

/-- The metrics of a trial that returned them. -/
theorem liveMetrics_of_ok (h : bench.trialMetrics num config trial b = .ok m) : LiveMetrics m := by
  obtain ⟨hstarts, hwarmup⟩ := trialMetrics_isOk_iff.mp ⟨m, h⟩
  have hsane := isSane_frames (K := K) bench config.targetPid trial b
  have hmetrics := trialMetrics_of_starts num hstarts
  have hpos : ∀ f ∈ (bench.frames config.targetPid trial b : List (FrameSample K)),
      0 < f.frameTimeMs := fun f hf => isSane_pos (hsane f hf)
  set times := activeFrameTimes (bench.frames config.targetPid trial b : List (FrameSample K))
    config.warmupFrames with htimes
  have hmem : ∀ t ∈ times, isSane t := by
    intro t ht
    obtain ⟨f, hf, rfl⟩ := List.mem_map.mp ht
    exact hsane f (List.mem_of_mem_drop hf)
  have hne : times ≠ [] := by
    rw [htimes, activeFrameTimes, ne_eq, List.map_eq_nil_iff, List.drop_eq_nil_iff]
    exact Nat.not_le.mpr hwarmup
  obtain ⟨m', hm', hread⟩ := computeMetrics_readOf num hwarmup
    (List.sum_pos _ (fun t ht => isSane_pos (hmem t ht)) hne) _ _
  rw [h, hm'] at hmetrics
  obtain rfl : m' = m := (Except.ok.inj (Option.some.inj hmetrics)).symm
  have hordered : MetricsOrdered ((bench.frames config.targetPid trial b).drop config.warmupFrames)
      m' := hread.ordered rfl hne fun t ht => isSane_pos (hmem t ht)
  have hfps : SaneRate m'.minFps ∧ SaneRate m'.maxFps := by
    obtain ⟨hleast, hgreatest, -⟩ := timesBounded hne
    rw [hread.minFps, hread.maxFps]
    exact ⟨saneRate_fpsOf (hmem _ hgreatest.1), saneRate_fpsOf (hmem _ hleast.1)⟩
  have hbetween {x : K} (hlo : m'.minFps ≤ x) (hhi : x ≤ m'.maxFps) : SaneRate x :=
    ⟨lt_of_lt_of_le hfps.1.1 hlo, lt_of_le_of_lt hhi hfps.2.2⟩
  obtain ⟨hlow, hmid, hhigh⟩ := hordered.lows
  obtain ⟨hprovenance, henvironment⟩ := computeMetrics_labels hm'
  exact {
    avgFps := hbetween hordered.avgFps.1 hordered.avgFps.2
    onePercentLowFps := hbetween (hlow.trans hmid) hhigh
    zeroPointOnePercentLowFps := hbetween hlow (hmid.trans hhigh)
    source := by rw [hprovenance]; rfl
    measured := by rw [hprovenance]; rfl
    environment := ⟨_, henvironment⟩ }

/-! ### The report -/

omit [FloorSemiring K] in
/-- The change between two such rates. -/
theorem changeWithin_of_sane {x y : K} (hx : SaneRate x) (hy : SaneRate y) :
    ChangeWithin (-100) 9999900 x y where
  nonneg := le_of_lt (lt_trans (by norm_num) hx.1)
  lower := by linarith [hy.1]
  upper := by linarith [hx.1, hy.2]

omit [FloorSemiring K] in
theorem deltaPercent_of_sane {x y : K} (hx : SaneRate x) (hy : SaneRate y) :
    ∃ d, deltaPercent x y = .finite d ∧ -100 < d ∧ d < 9999900 := by
  have hpos : 0 < x := lt_trans (by norm_num) hx.1
  refine ⟨(y - x) / x * 100, ?_, ?_, ?_⟩
  · rw [deltaPercent, Extended.div, if_pos hpos.ne']
    rfl
  · rw [div_mul_eq_mul_div, lt_div_iff₀ hpos]
    linarith [hy.1]
  · rw [div_mul_eq_mul_div, div_lt_iff₀ hpos]
    linarith [hx.1, hy.2]

/-- What the report of a live run of so many pairs satisfies. -/
structure LiveReport (trials : ℕ) (report : ABComparisonReport K) : Prop where
  rates : ∀ fps ∈ [report.baselineAvgFps, report.optimizedAvgFps, report.baselineOnePercentLow,
    report.optimizedOnePercentLow, report.baselineZeroOnePercentLow,
    report.optimizedZeroOnePercentLow], 1 / 5 < fps ∧ fps < 20000
  deltas : ∀ delta ∈ [report.deltaAvgFpsPercent, report.deltaOnePercentLowPercent,
    report.deltaZeroOnePercentLowPercent], ∃ d, delta = .finite d ∧ -100 < d ∧ d < 9999900
  interval : report.bootstrapOnePercentCi.1 ≤ report.bootstrapOnePercentCi.2 ∧
    -100 ≤ report.bootstrapOnePercentCi.1 ∧ report.bootstrapOnePercentCi.2 ≤ 9999900
  environment : ∃ environment, report.environment = some environment ∧
    0 ≤ environment.cpuUtilizationPercent ∧ environment.cpuUtilizationPercent ≤ 100
  source : report.provenance.source = .realEtwPresentation ∧ report.provenance.isDirectlyMeasured
  trialsCount : report.trialsCount = trials

/-- The metrics of trials that all returned them. -/
theorem Measured.liveMetrics {trials : List ℕ} {runs : List (ComputedMetrics K)}
    (h : Measured bench num config b trials runs) : ∀ m ∈ runs, LiveMetrics m := by
  induction h with
  | nil => exact fun m hm => absurd hm List.not_mem_nil
  | cons hm _ ih => exact List.forall_mem_cons.mpr ⟨liveMetrics_of_ok hm, ih⟩

/-- The means of live trials. -/
theorem saneRate_means {runs : List (ComputedMetrics K)} (hne : runs ≠ [])
    (h : ∀ m ∈ runs, LiveMetrics m) :
    SaneRate (mean ((runs.map (·.toBenchmarkMetrics)).map (·.avgFps))) ∧
    SaneRate (mean (onePercentLows (runs.map (·.toBenchmarkMetrics)))) ∧
    SaneRate (mean ((runs.map (·.toBenchmarkMetrics)).map (·.zeroPointOnePercentLowFps))) := by
  have hmean {f : BenchmarkMetrics K → K} (hf : ∀ m ∈ runs, SaneRate (f m.toBenchmarkMetrics)) :
      SaneRate (mean ((runs.map (·.toBenchmarkMetrics)).map f)) := by
    apply saneRate_mean
    · simpa using hne
    · intro x hx
      rw [List.map_map, List.mem_map] at hx
      obtain ⟨m, hm, rfl⟩ := hx
      exact hf m hm
  exact ⟨hmean fun m hm => (h m hm).avgFps, hmean fun m hm => (h m hm).onePercentLowFps,
    hmean fun m hm => (h m hm).zeroPointOnePercentLowFps⟩

/-- The interval of live trials. -/
theorem comparisonCi_live {rng : Generator} {base opt : List (ComputedMetrics K)}
    (hlength : base.length = opt.length) (htwo : 2 ≤ base.length)
    (hbase : ∀ m ∈ base, LiveMetrics m) (hopt : ∀ m ∈ opt, LiveMetrics m) :
    let ci := comparisonCi rng (base.map (·.toBenchmarkMetrics)) (opt.map (·.toBenchmarkMetrics))
    ci.1 ≤ ci.2 ∧ -100 ≤ ci.1 ∧ ci.2 ≤ 9999900 := by
  have hsane {runs : List (ComputedMetrics K)} (h : ∀ m ∈ runs, LiveMetrics m) :
      ∀ x ∈ onePercentLows (runs.map (·.toBenchmarkMetrics)), SaneRate x := by
    intro x hx
    rw [onePercentLows, List.map_map, List.mem_map] at hx
    obtain ⟨m, hm, rfl⟩ := hx
    exact (h m hm).onePercentLowFps
  have hlows {runs : List (ComputedMetrics K)} :
      (onePercentLows (runs.map (·.toBenchmarkMetrics))).length = runs.length := by
    rw [onePercentLows, List.length_map, List.length_map]
  set a := onePercentLows (base.map (·.toBenchmarkMetrics)) with ha
  set c := onePercentLows (opt.map (·.toBenchmarkMetrics)) with hc
  have hlen : a.length = c.length := by rw [ha, hc, hlows, hlows, hlength]
  obtain ⟨ci, hci⟩ : ∃ ci, bootstrapPairedPercentageDeltaCi rng a c 2000 (95 / 100) = .ok ci :=
    bootstrap_returns hlen (by rw [ha, hlows]; exact htwo) _ _
  have hwithin := bootstrap_within (by norm_num)
    (fun x hx => lt_trans (by norm_num) (hsane hbase x hx).1)
    (fun i hi => changeWithin_of_sane (hsane hbase _ (getD_mem hi))
      (hsane hopt _ (getD_mem (hlen ▸ hi)))) hci
  have hvalue : comparisonCi rng (base.map (·.toBenchmarkMetrics))
      (opt.map (·.toBenchmarkMetrics)) = ci := by
    rw [comparisonCi, ← ha, ← hc, hci]
    rfl
  dsimp only
  rw [hvalue]
  exact ⟨bootstrap_ordered (by norm_num) hci, hwithin.1.1, hwithin.2.2⟩

/-- **The numbers in the report of a live run**, whatever the trials captured. -/
theorem runLive_report {bench : LiveBench σ} {num : Numerics K} {rng : Generator}
    {config : ABBenchmarkConfig K} {env : Env BenchCall} {s s' : σ} {report : ABComparisonReport K}
    (h : (runLiveEtwBenchmark bench num rng config).run env s = .returned (.ok report) s') :
    LiveReport config.trials report := by
  obtain ⟨-, -, -, base, opt, hbase, hopt, hreport⟩ := runLive_ok_iff.mp h
  have hspec := compareAbTrials_report hreport
  have hsummary := compareAbTrials_summary hreport
  have htwo := hspec.two_le_base
  rw [List.length_map] at htwo
  have hbase_ne : base ≠ [] := List.length_pos_iff.mp (by omega)
  have hopt_ne : opt ≠ [] := List.length_pos_iff.mp (by rw [hopt.length, ← hbase.length]; omega)
  obtain ⟨ha₁, ha₂, ha₃⟩ := saneRate_means hbase_ne hbase.liveMetrics
  obtain ⟨hb₁, hb₂, hb₃⟩ := saneRate_means hopt_ne hopt.liveMetrics
  obtain ⟨hbaseline, hoptimized, htrials, henvironment⟩ := hsummary
  have hdeltas := hspec.deltas
  simp only [deltaMeans, List.zipWith_cons_cons, List.cons.injEq] at hbaseline hoptimized hdeltas
  obtain ⟨hd₁, hd₂, hd₃, -⟩ := hdeltas
  constructor
  case rates =>
    simp only [List.forall_mem_cons, List.not_mem_nil, IsEmpty.forall_iff, implies_true, and_true]
    rw [hbaseline.1, hbaseline.2.1, hbaseline.2.2.1, hoptimized.1, hoptimized.2.1, hoptimized.2.2.1]
    exact ⟨ha₁, hb₁, ha₂, hb₂, ha₃, hb₃⟩
  case deltas =>
    simp only [List.forall_mem_cons, List.not_mem_nil, IsEmpty.forall_iff, implies_true, and_true]
    rw [hd₁, hd₂, hd₃]
    exact ⟨deltaPercent_of_sane ha₁ hb₁, deltaPercent_of_sane ha₂ hb₂, deltaPercent_of_sane ha₃ hb₃⟩
  case interval =>
    rw [hspec.ci]
    exact comparisonCi_live (by rw [hbase.length, hopt.length]) htwo hbase.liveMetrics
      hopt.liveMetrics
  case environment =>
    obtain ⟨host, hhost⟩ := (hopt.liveMetrics _ (List.getLast_mem hopt_ne)).environment
    refine ⟨_, ?_, sampledUtilization_mem host⟩
    rw [henvironment, List.getLast?_map, List.getLast?_eq_getLast_of_ne_nil hopt_ne,
      Option.map_some, Option.bind_some, hhost]
    rfl
  case source =>
    obtain ⟨m, rest, rfl⟩ := List.exists_cons_of_ne_nil hbase_ne
    have hm := hbase.liveMetrics m List.mem_cons_self
    rw [hspec.provenance]
    exact ⟨hm.source, hm.measured⟩
  case trialsCount =>
    rw [htrials, List.length_map, List.length_map, hbase.length, hopt.length, min_self]

theorem sampleBench_liveReport : ∃ report,
    (runLiveEtwBenchmark sampleBench sampleNumerics xorshift64 sampleConfig).run
      (.faultless fun _ => "") false = .returned (.ok report) true ∧ LiveReport 2 report := by
  obtain ⟨report, hrun⟩ := sampleBench_reports
  exact ⟨report, hrun, runLive_report hrun⟩

end ValOpt
