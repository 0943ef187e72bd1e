import ValOpt.Benchmarking.Equiv.ConstantTrials
import ValOpt.Benchmarking.Equiv.LiveReport
import ValOpt.Statistics.Blocks

/-!
# What a fixture measures

In virtual time the frames of `MockDirectXApp` last as long as its configuration says, so the
metrics of a trial are known in advance (`fixture_metrics`): the stutters show in the 1%-low if and
only if they are one frame in a hundred or more.  A synthetic benchmark is a comparison of two
constants, and its verdict is one on its configuration (`runSynthetic_report`).
-/

namespace ValOpt

open Statistics

variable {K : Type} [Field K] [LinearOrder K] [FloorSemiring K]

/-! ### The frames -/

namespace FrameCollector

omit [Field K] [LinearOrder K] [FloorSemiring K] in
/-- A collector that records takes every frame. -/
theorem samples_foldl_recordSample (frames : List (FrameSample K)) {c : FrameCollector K}
    (h : c.isRecording = true) :
    (frames.foldl (fun c sample => c.recordSample sample) c).samples = c.samples ++ frames := by
  induction frames generalizing c with
  | nil => rw [List.foldl_nil, List.append_nil]
  | cons frame frames ih =>
    have hrecord : c.recordSample frame = { c with
        samples := c.samples ++ [frame], totalFramesCaptured := c.totalFramesCaptured + 1 } := by
      rw [recordSample, h]
      rfl
    rw [List.foldl_cons, ih (by rw [hrecord]; exact h), hrecord, List.append_assoc]
    rfl

end FrameCollector

namespace MockDirectXApp

variable {app : MockDirectXApp K} {t : K}

/-- The frames of a run in virtual time, from one on. -/
def virtualFrames (app : MockDirectXApp K) (t : K) :
    (frameIdx left : ℕ) → UInt64 → List (FrameSample K)
  | _, 0, _ => []
  | frameIdx, left + 1, cumulativeUs =>
    let time := app.currentFrameTimeMs t frameIdx
    let timestampUs := cumulativeUs + toU64 (time * (1000 : ℕ))
    ⟨UInt64.ofNat frameIdx, timestampUs, time, none, time⟩ ::
      app.virtualFrames t (frameIdx + 1) left timestampUs

theorem runVirtual_eq {β : Type} (onFrame : FrameSample K → β → β) (frameIdx left : ℕ)
    (cumulativeUs : UInt64) (state : β) :
    app.runVirtual t onFrame frameIdx left cumulativeUs state =
      (app.virtualFrames t frameIdx left cumulativeUs).foldl
        (fun state sample => onFrame sample state)
        state := by
  induction left generalizing frameIdx cumulativeUs state with
  | zero => rfl
  | succ left ih =>
    rw [runVirtual, virtualFrames, List.foldl_cons]
    exact ih _ _ _

theorem times_virtualFrames (frameIdx left : ℕ) (cumulativeUs : UInt64) :
    (app.virtualFrames t frameIdx left cumulativeUs).map (·.frameTimeMs) =
      (List.range' frameIdx left).map (app.currentFrameTimeMs t) := by
  induction left generalizing frameIdx cumulativeUs with
  | zero => rfl
  | succ left ih =>
    rw [virtualFrames, List.map_cons, ih, List.range'_succ, List.map_cons]

theorem length_virtualFrames (frameIdx left : ℕ) (cumulativeUs : UInt64) :
    (app.virtualFrames t frameIdx left cumulativeUs).length = left := by
  rw [← List.length_map (fun f : FrameSample K => f.frameTimeMs), times_virtualFrames,
    List.length_map, List.length_range']

/-- A run in virtual time hands its frames to the collector. -/
theorem runFrames_virtual (hvirtual : app.virtualTime = true) (hfps : app.targetFps ≠ 0)
    (clock : QpcClock) (frames : ℕ) :
    ∃ collector, app.runFrames clock frames (fun sample c => c.recordSample sample)
        FrameCollector.new.start = some collector ∧
      collector.stop.snapshot = app.virtualFrames ((1000 : ℕ) / app.targetFps) 1 frames 0 := by
  refine ⟨app.runVirtual ((1000 : ℕ) / app.targetFps)
    (fun sample c => c.recordSample sample) 1 frames 0
    FrameCollector.new.start, ?_, ?_⟩
  · rw [runFrames, divide_of_ne hfps, Option.bind_eq_bind, Option.bind_some, if_pos hvirtual]
  · rw [runVirtual_eq, FrameCollector.snapshot, FrameCollector.stop,
      FrameCollector.samples_foldl_recordSample _ rfl]
    rfl

/-! ### The stutters -/

/-- The number of stutters after the warm-up. -/
def activeStutters (app : MockDirectXApp K) (frames warmupFrames : ℕ) : ℕ :=
  frames / app.stutterInterval - warmupFrames / app.stutterInterval

omit [Field K] [LinearOrder K] [FloorSemiring K] in
theorem stutters_iff (frameIdx : ℕ) :
    app.stutters (frameIdx + 1) = true ↔ app.stutterInterval ∣ frameIdx + 1 := by
  rw [stutters, Bool.and_eq_true, decide_eq_true_eq, decide_eq_true_eq, Nat.dvd_iff_mod_eq_zero]
  constructor
  · exact fun h => h.2
  · intro h
    refine ⟨Nat.pos_of_ne_zero fun hzero => ?_, h⟩
    rw [hzero, Nat.mod_zero] at h
    omega

omit [Field K] [LinearOrder K] [FloorSemiring K] in
theorem countP_stutters (first count : ℕ) : (List.range' (first + 1) count).countP app.stutters =
    (first + count) / app.stutterInterval - first / app.stutterInterval := by
  induction count with
  | zero => rw [List.range'_zero, List.countP_nil, Nat.add_zero, Nat.sub_self]
  | succ count ih =>
    have hle : first / app.stutterInterval ≤ (first + count) / app.stutterInterval :=
      Nat.div_le_div_right (Nat.le_add_right _ _)
    have hlast : first + 1 + 1 * count = first + count + 1 := by omega
    rw [List.range'_concat, List.countP_append, ih, List.countP_singleton, ← Nat.add_assoc,
      Nat.succ_div, hlast]
    simp only [stutters_iff]
    split <;> omega

/-- The frame times after the warm-up. -/
theorem activeFrameTimes_virtualFrames (warmupFrames frames : ℕ) :
    activeFrameTimes (app.virtualFrames t 1 frames 0) warmupFrames =
      (List.range' (warmupFrames + 1) (frames - warmupFrames)).map (app.currentFrameTimeMs t) := by
  rw [activeFrameTimes, List.map_drop, times_virtualFrames, ← List.map_drop, List.drop_range',
    Nat.mul_one, Nat.add_comm 1]

/-- The times of the active frames are a block of ordinary frames and one of stutters. -/
structure TwoTimes (app : MockDirectXApp K) (t : K) (frames warmupFrames : ℕ)
    (times : List K) : Prop
    where
  length : times.length = frames - warmupFrames
  stutters : app.activeStutters frames warmupFrames ≤ frames - warmupFrames
  perm : times.Perm (blocks (frames - warmupFrames - app.activeStutters frames warmupFrames) t
    (app.activeStutters frames warmupFrames) app.stutterDurationMs)

theorem twoTimes (app : MockDirectXApp K) (t : K) {warmupFrames frames : ℕ}
    (h : warmupFrames ≤ frames) :
    app.TwoTimes t frames warmupFrames
      (activeFrameTimes (app.virtualFrames t 1 frames 0) warmupFrames) := by
  have hcount : (List.range' (warmupFrames + 1) (frames - warmupFrames)).countP app.stutters = _ :=
    countP_stutters warmupFrames (frames - warmupFrames)
  rw [Nat.add_sub_cancel' h, ← activeStutters] at hcount
  have hperm := map_ite_perm app.stutters t app.stutterDurationMs
    (List.range' (warmupFrames + 1) (frames - warmupFrames))
  have hrest := hperm.length_eq
  rw [List.length_map, List.length_range', length_blocks, hcount] at hrest
  rw [hcount, show (List.range' (warmupFrames + 1) (frames - warmupFrames)).countP
    (fun a => !app.stutters a) = frames - warmupFrames - app.activeStutters frames warmupFrames by
      omega] at hperm
  constructor
  case length =>
    rw [activeFrameTimes_virtualFrames, List.length_map, List.length_range']
  case stutters => omega
  case perm =>
    rw [activeFrameTimes_virtualFrames]
    exact hperm

section Percentiles

variable [IsStrictOrderedRing K] {frames warmupFrames : ℕ} {times : List K} {p : K}

omit [Field K] [FloorSemiring K] [IsStrictOrderedRing K] in
theorem TwoTimes.sorted (h : app.TwoTimes t frames warmupFrames times)
    (hslow : t ≤ app.stutterDurationMs) : sortedTimes times =
      blocks (frames - warmupFrames - app.activeStutters frames warmupFrames) t
        (app.activeStutters frames warmupFrames) app.stutterDurationMs := by
  apply List.Perm.eq_of_sortedLE List.sortedLE_mergeSort (sortedLE_blocks hslow)
  exact (List.mergeSort_perm _ _).trans h.perm

omit [FloorSemiring K] [IsStrictOrderedRing K] in
theorem percentileRank_eq {xs : List K} {k : ℕ} (hlength : xs.length = k + 1) (h0 : 0 ≤ p)
    (h100 : p ≤ 100) : percentileRank xs p = p / 100 * k := by
  rw [percentileRank, min_eq_left h100, max_eq_right h0, hlength, Nat.add_sub_cancel]

/-- Where the stutters are slow, a percentile is the time of a frame if and only if its rank is that
of an ordinary one. -/
theorem TwoTimes.percentile_eq_iff (h : app.TwoTimes t frames warmupFrames times)
    (hslow : t < app.stutterDurationMs) (hwarmup : warmupFrames < frames) (h0 : 0 ≤ p)
    (h100 : p ≤ 100) : calculatePercentile (sortedTimes times) p = t ↔
      (app.activeStutters frames warmupFrames : K) ≤
        (1 - p / 100) * (frames - warmupFrames - 1 : ℕ) := by
  obtain ⟨k, hk⟩ := Nat.exists_eq_add_of_lt hwarmup
  have hactive : frames - warmupFrames = k + 1 := by omega
  have hstutters := h.stutters
  rw [h.sorted hslow.le, hactive]
  rw [hactive] at hstutters
  set s := app.activeStutters frames warmupFrames
  have hlength : (blocks (k + 1 - s) t s app.stutterDurationMs).length = k + 1 := by
    rw [length_blocks]
    omega
  rw [calculatePercentile_eq (List.length_pos_iff.mp (by omega)), interpolate_blocks_eq_iff hslow
    (percentileRank_nonneg _ _), percentileRank_eq hlength h0 h100, Nat.cast_sub hstutters]
  · push_cast
    constructor <;> intro hle <;> linarith
  · have hle := percentileRank_le (blocks (k + 1 - s) t s app.stutterDurationMs) p
    rwa [length_blocks] at hle
  · omega

/-- A percentile is that of an ordinary frame too where the stutters are fast. -/
theorem TwoTimes.percentile_eq (h : app.TwoTimes t frames warmupFrames times)
    (hwarmup : warmupFrames < frames) (h50 : 50 ≤ p) (h100 : p ≤ 100)
    (hrare : (app.activeStutters frames warmupFrames : K) ≤
      (1 - p / 100) * (frames - warmupFrames - 1 : ℕ)) :
    calculatePercentile (sortedTimes times) p = t := by
  rcases lt_or_ge t app.stutterDurationMs with hslow | hfast
  · exact (h.percentile_eq_iff hslow hwarmup (by linarith) h100).mpr hrare
  · -- the stutters come first
    obtain ⟨k, hk⟩ := Nat.exists_eq_add_of_lt hwarmup
    have hactive : frames - warmupFrames = k + 1 := by omega
    have hstutters := h.stutters
    have hperm := h.perm
    rw [hactive] at hstutters hperm hrare
    set s := app.activeStutters frames warmupFrames
    have hsorted : sortedTimes times = blocks s app.stutterDurationMs (k + 1 - s) t := by
      apply List.Perm.eq_of_sortedLE List.sortedLE_mergeSort (sortedLE_blocks hfast)
      exact (List.mergeSort_perm _ _).trans (hperm.trans List.perm_append_comm)
    have hlength : (blocks s app.stutterDurationMs (k + 1 - s) t).length = k + 1 := by
      rw [length_blocks]
      omega
    have hk0 : (0 : K) ≤ k := Nat.cast_nonneg k
    have hrank : percentileRank (blocks s app.stutterDurationMs (k + 1 - s) t) p = p / 100 * k :=
      percentileRank_eq hlength (by linarith) h100
    have hhalf : (1 - p / 100) * (k : K) ≤ p / 100 * k := by
      apply mul_le_mul_of_nonneg_right _ hk0
      linarith
    rw [hsorted, calculatePercentile_eq (List.length_pos_iff.mp (by omega)),
      interpolate_blocks_right]
    · rw [hrank]
      exact hrare.trans hhalf
    · have hle := percentileRank_le (blocks s app.stutterDurationMs (k + 1 - s) t) p
      rwa [length_blocks] at hle
    · omega

end Percentiles

/-! ### The metrics of a fixture -/

section Fixture

variable [IsStrictOrderedRing K] {frames warmupFrames : ℕ} {times : List K} {m : ComputedMetrics K}

/-- What the metrics of a fixture with slow stutters say. -/
structure FixtureMetrics (app : MockDirectXApp K) (frames warmupFrames : ℕ)
    (m : ComputedMetrics K) :
    Prop where
  totalFrames : m.totalFrames = frames - warmupFrames
  mean : m.frameTimeMeanMs * (frames - warmupFrames : ℕ) =
    (frames - warmupFrames - app.activeStutters frames warmupFrames : ℕ) * (1000 / app.targetFps) +
      app.activeStutters frames warmupFrames * app.stutterDurationMs
  onePercentLow : m.onePercentLowFps ≤ app.targetFps ∧
    (m.onePercentLowFps = app.targetFps ↔
      100 * app.activeStutters frames warmupFrames < frames - warmupFrames)
  zeroPointOnePercentLow : m.zeroPointOnePercentLowFps ≤ app.targetFps ∧
    (m.zeroPointOnePercentLowFps = app.targetFps ↔
      1000 * app.activeStutters frames warmupFrames < frames - warmupFrames)
  stutterCount1_5x : m.stutterCount1_5x =
    if m.frameTimeMeanMs * (3 / 2) ≤ app.stutterDurationMs then
      app.activeStutters frames warmupFrames
    else 0

omit [FloorSemiring K] in
/-- A rate at a time that is at least that of an ordinary frame. -/
theorem fpsOf_le_iff {fps : K} (hfps : 0 < fps) (h : 1000 / fps ≤ t) :
    fpsOf t ≤ fps ∧ (fpsOf t = fps ↔ t = 1000 / fps) := by
  have hpos : 0 < t := lt_of_lt_of_le (by positivity) h
  rw [fpsOf_of_pos hpos]
  constructor
  · rw [div_le_iff₀ hpos, ← div_le_iff₀' hfps]
    exact h
  · rw [div_eq_iff hpos.ne', eq_div_iff hfps.ne', mul_comm fps, eq_comm]

omit [LinearOrder K] [FloorSemiring K] [IsStrictOrderedRing K] in
theorem sum_blocks (m n : ℕ) (x y : K) : (blocks m x n y).sum = m * x + n * y := by
  rw [blocks, List.sum_append, List.sum_replicate, List.sum_replicate, nsmul_eq_mul, nsmul_eq_mul]

omit [Field K] [FloorSemiring K] [IsStrictOrderedRing K] in
/-- The entries of the second block alone reach a threshold above the first. -/
theorem countP_blocks {m n : ℕ} {x y c : K} (h : x < c) :
    (blocks m x n y).countP (c ≤ ·) = if c ≤ y then n else 0 := by
  have hfirst : ¬ decide (c ≤ x) = true := by simpa using h
  rw [blocks, List.countP_append, List.countP_replicate, List.countP_replicate, if_neg hfirst,
    Nat.zero_add]
  simp only [decide_eq_true_eq]

theorem TwoTimes.fixtureMetrics (h : app.TwoTimes (1000 / app.targetFps) frames warmupFrames times)
    (hfps : 0 < app.targetFps) (hslow : 1000 / app.targetFps < app.stutterDurationMs)
    (hwarmup : warmupFrames < frames) (hread : ReadOf times m) :
    app.FixtureMetrics frames warmupFrames m := by
  have htime : 0 < 1000 / app.targetFps := by positivity
  have hlength := h.length
  have hne : times ≠ [] := List.length_pos_iff.mp (by omega)
  have hbound : ∀ x ∈ times, 1000 / app.targetFps ≤ x := by
    intro x hx
    rcases List.mem_append.mp (h.perm.subset hx) with hx | hx <;> rw [List.eq_of_mem_replicate hx]
    exact hslow.le
  have hpercentile (q : K) : 1000 / app.targetFps ≤ calculatePercentile (sortedTimes times) q :=
    le_calculatePercentile List.sortedLE_mergeSort (mergeSort_ne_nil hne) fun x hx =>
      hbound x (List.mem_mergeSort.mp hx)
  have hmean : 1000 / app.targetFps ≤ m.frameTimeMeanMs := by
    rw [hread.frameTimeMeanMs, le_div_iff₀ (Nat.cast_pos.mpr (by omega)), mul_comm,
      ← nsmul_eq_mul]
    exact List.card_nsmul_le_sum times _ hbound
  constructor
  case totalFrames => rw [hread.totalFrames, hlength]
  case mean =>
    have hcount : ((frames - warmupFrames : ℕ) : K) ≠ 0 := Nat.cast_ne_zero.mpr (by omega)
    rw [hread.frameTimeMeanMs, hlength, div_mul_cancel₀ _ hcount, h.perm.sum_eq, sum_blocks]
  case onePercentLow =>
    rw [hread.onePercentLowFps, hread.p99]
    refine ⟨(fpsOf_le_iff hfps (hpercentile 99)).1, ?_⟩
    rw [(fpsOf_le_iff hfps (hpercentile 99)).2, h.percentile_eq_iff hslow hwarmup (by norm_num)
      (by norm_num), ← Nat.le_sub_one_iff_lt (by omega), ← Nat.cast_le (α := K)]
    push_cast
    constructor <;> intro hle <;> linarith
  case zeroPointOnePercentLow =>
    rw [hread.zeroPointOnePercentLowFps, hread.p99_9]
    refine ⟨(fpsOf_le_iff hfps (hpercentile (999 / 10))).1, ?_⟩
    rw [(fpsOf_le_iff hfps (hpercentile (999 / 10))).2, h.percentile_eq_iff hslow hwarmup
      (by norm_num) (by norm_num), ← Nat.le_sub_one_iff_lt (by omega), ← Nat.cast_le (α := K)]
    push_cast
    constructor <;> intro hle <;> linarith
  case stutterCount1_5x =>
    rw [hread.stutterCount1_5x, ← List.countP_eq_length_filter, h.sorted hslow.le,
      countP_blocks (by linarith)]

omit [FloorSemiring K] in
theorem TwoTimes.sum_pos (h : app.TwoTimes t frames warmupFrames times) (ht : 0 < t)
    (hstutter : 0 < app.stutterDurationMs) (hwarmup : warmupFrames < frames) : 0 < times.sum := by
  have hlength := h.length
  apply List.sum_pos
  · intro x hx
    rcases List.mem_append.mp (h.perm.subset hx) with hx | hx <;>
      rw [List.eq_of_mem_replicate hx] <;> assumption
  · exact List.length_pos_iff.mp (by omega)

/-- **The metrics of a fixture**: the stutters show in a low if and only if there are enough of
them. -/
theorem fixture_metrics (num : Numerics K) (hvirtual : app.virtualTime = true)
    (hfps : 0 < app.targetFps) (hslow : 1000 / app.targetFps < app.stutterDurationMs)
    (clock : QpcClock) (hwarmup : warmupFrames < frames) :
    ∃ collector m, app.runFrames clock frames (fun sample c => c.recordSample sample)
        FrameCollector.new.start = some collector ∧
      collector.stop.calculateMetrics num warmupFrames = some (.ok m) ∧
      app.FixtureMetrics frames warmupFrames m := by
  obtain ⟨collector, hrun, hsnapshot⟩ := app.runFrames_virtual hvirtual hfps.ne' clock frames
  rw [Nat.cast_ofNat] at hsnapshot
  have htimes := app.twoTimes (1000 / app.targetFps) hwarmup.le
  have htime : 0 < 1000 / app.targetFps := by positivity
  have hsum := htimes.sum_pos htime (htime.trans hslow) hwarmup
  obtain ⟨m, hm, hread⟩ :=
    computeMetrics_readOf num (by rwa [length_virtualFrames]) hsum .default none
  refine ⟨collector, m, hrun, ?_, htimes.fixtureMetrics hfps hslow hwarmup hread⟩
  rw [FrameCollector.calculateMetrics, hsnapshot, computeMetrics, hm]

/-- Every 150th frame stutters. -/
noncomputable def stutteringApp : MockDirectXApp ℝ :=
  ((MockDirectXApp.new ((240 : ℕ) : ℝ)).withStutters 150 ((16 : ℕ) : ℝ)).withVirtualTime true

theorem stutteringApp_metrics :
    ∃ collector m, stutteringApp.runFrames ⟨10000000, 0, fun _ => 0⟩ 1000
      (fun sample c => c.recordSample sample) FrameCollector.new.start = some collector ∧
    collector.stop.calculateMetrics sampleNumerics 50 = some (.ok m) ∧
    stutteringApp.FixtureMetrics 1000 50 m := by
  apply fixture_metrics
  · rfl
  · show (0 : ℝ) < (240 : ℕ)
    norm_num
  · show (1000 : ℝ) / (240 : ℕ) < (16 : ℕ)
    norm_num
  · omega

end Fixture

end MockDirectXApp

/-! ### The synthetic benchmark -/

section Benchmark

variable [IsStrictOrderedRing K] {num : Numerics K} {config : ABBenchmarkConfig K}
    {clock : QpcClock}

/-- The rate of the trials. -/
def ABBenchmarkConfig.rate (config : ABBenchmarkConfig K) (isOptimized : Bool) : K :=
  if isOptimized then config.optimizedFps else config.baselineFps

/-- A configuration whose trials are long enough for their stutters to be rare. -/
structure ABBenchmarkConfig.Regular (config : ABBenchmarkConfig K) : Prop where
  rate_pos : ∀ isOptimized, 0 < config.rate isOptimized
  frames : config.warmupFrames + 300 < config.framesPerTrial

omit [Field K] [LinearOrder K] [FloorSemiring K] [IsStrictOrderedRing K] in
/-- One in 150 frames stutters, or fewer. -/
theorem stutters_rare {app : MockDirectXApp K} {frames warmupFrames : ℕ}
    (hinterval : app.stutterInterval = 150 ∨ app.stutterInterval = 400)
    (h : warmupFrames + 300 < frames) :
    100 * app.activeStutters frames warmupFrames ≤ frames - warmupFrames - 1 := by
  rw [MockDirectXApp.activeStutters]
  rcases hinterval with hinterval | hinterval <;> rw [hinterval] <;> omega

/-- What a trial of made-up frames says. -/
structure SyntheticMetrics (config : ABBenchmarkConfig K) (isOptimized : Bool)
    (m : ComputedMetrics K) : Prop where
  onePercentLowFps : m.onePercentLowFps = config.rate isOptimized
  provenance : m.provenance = .synthetic (UInt64.ofNat config.framesPerTrial)

variable (num clock) in
theorem syntheticTrial_ok (h : config.Regular) (host : HostReadings) (b : Bool) :
    ∃ m, syntheticTrial num config clock host b = some (.ok m) ∧ SyntheticMetrics config b m := by
  have hvirtual : (mockApp config b).virtualTime = true := by cases b <;> rfl
  have hrate : (mockApp config b).targetFps = config.rate b := by cases b <;> rfl
  have hinterval : (mockApp config b).stutterInterval = 150 ∨
      (mockApp config b).stutterInterval = 400 := by
    cases b
    · exact .inl rfl
    · exact .inr rfl
  have hstutter : 0 < (mockApp config b).stutterDurationMs := by
    cases b
    · show (0 : K) < ((1666 : ℕ) : K) / (100 : ℕ)
      positivity
    · show (0 : K) < ((833 : ℕ) : K) / (100 : ℕ)
      positivity
  have hfps := h.rate_pos b
  have hwarmup : config.warmupFrames < config.framesPerTrial := by have := h.frames; omega
  obtain ⟨collector, hrun, hsnapshot⟩ := (mockApp config b).runFrames_virtual hvirtual
    (by rw [hrate]; exact hfps.ne') clock config.framesPerTrial
  have htimes := (mockApp config b).twoTimes ((1000 : ℕ) / config.rate b) hwarmup.le
  rw [hrate] at hsnapshot
  have htime : 0 < ((1000 : ℕ) : K) / config.rate b := div_pos (by norm_num) hfps
  set frames :=
    (mockApp config b).virtualFrames ((1000 : ℕ) / config.rate b) 1 config.framesPerTrial 0
  have hlength : frames.length = config.framesPerTrial := MockDirectXApp.length_virtualFrames _ _ _
  have hsum := htimes.sum_pos htime hstutter hwarmup
  obtain ⟨m, hm, hread⟩ := computeMetrics_readOf num (by rwa [hlength]) hsum
    (.synthetic (UInt64.ofNat frames.length)) (some (sampleEnvironmentalTelemetry host))
  refine ⟨m, ?_, ?_, ?_⟩
  · rw [syntheticTrial, hrun, Option.bind_eq_bind, Option.bind_some, hsnapshot]
    exact hm
  · have hrare := stutters_rare hinterval h.frames
    have hcast : ((100 * (mockApp config b).activeStutters config.framesPerTrial
        config.warmupFrames : ℕ) : K) ≤ (config.framesPerTrial - config.warmupFrames - 1 : ℕ) :=
      Nat.cast_le.mpr hrare
    push_cast at hcast
    rw [hread.onePercentLowFps, hread.p99, htimes.percentile_eq hwarmup (by norm_num) (by norm_num)
      (by linarith), fpsOf_of_pos htime, Nat.cast_ofNat, div_div_cancel₀ (by norm_num)]
  · rw [(computeMetrics_labels hm).1, hlength]

variable (num clock) in
/-- The trials of a loop, and those before it. -/
theorem syntheticTrials_ok (h : config.Regular) (host : ℕ → Bool → HostReadings) (trial left : ℕ)
    (before before' : List (ComputedMetrics K)) :
    ∃ base opt, syntheticTrials num config clock host trial left before before' =
        some (.ok (before ++ base, before' ++ opt)) ∧
      (base.length = left ∧ ∀ m ∈ base, SyntheticMetrics config false m) ∧
      opt.length = left ∧ ∀ m ∈ opt, SyntheticMetrics config true m := by
  induction left generalizing trial before before' with
  | zero =>
    refine ⟨[], [], ?_, ⟨rfl, ?_⟩, rfl, ?_⟩
    · rw [syntheticTrials, List.append_nil, List.append_nil]
    · exact fun m hm => absurd hm List.not_mem_nil
    · exact fun m hm => absurd hm List.not_mem_nil
  | succ left ih =>
    obtain ⟨a, ha, hma⟩ := syntheticTrial_ok num clock h (host trial false) false
    obtain ⟨b, hb, hmb⟩ := syntheticTrial_ok num clock h (host trial true) true
    obtain ⟨base, opt, hrest, ⟨hbase, hbase'⟩, hopt, hopt'⟩ :=
      ih (trial + 1) (before ++ [a]) (before' ++ [b])
    refine ⟨a :: base, b :: opt, ?_, ⟨?_, ?_⟩, ?_, ?_⟩
    · rw [syntheticTrials, ha, Option.bind_eq_bind, Option.bind_some]
      dsimp only
      rw [hb, Option.bind_some]
      dsimp only
      rw [hrest, List.append_assoc, List.append_assoc]
      rfl
    · rw [List.length_cons, hbase]
    · exact List.forall_mem_cons.mpr ⟨hma, hbase'⟩
    · rw [List.length_cons, hopt]
    · exact List.forall_mem_cons.mpr ⟨hmb, hopt'⟩

omit [Field K] [LinearOrder K] [FloorSemiring K] [IsStrictOrderedRing K] in
theorem onePercentLows_synthetic {b : Bool} {runs : List (ComputedMetrics K)}
    (h : ∀ m ∈ runs, SyntheticMetrics config b m) :
    onePercentLows (runs.map (·.toBenchmarkMetrics)) =
      List.replicate runs.length (config.rate b) := by
  rw [onePercentLows, List.map_map, List.eq_replicate_iff]
  refine ⟨List.length_map _, ?_⟩
  intro x hx
  obtain ⟨m, hm, rfl⟩ := List.mem_map.mp hx
  exact (h m hm).onePercentLowFps

/-- **The verdict of a synthetic benchmark** is one on its configuration: neither the clock, nor the
state of the host, nor the random numbers matter. -/
theorem runSynthetic_report (h : config.Regular) (htrials : 2 ≤ config.trials) (num : Numerics K)
    (rng : Generator) (clock : QpcClock) (host : ℕ → Bool → HostReadings) :
    ∃ report, runSyntheticBenchmark num rng config clock host = some (.ok report) ∧
      ConstantReport num config.trials config.baselineFps config.optimizedFps report ∧
      report.provenance = .synthetic (UInt64.ofNat config.framesPerTrial) := by
  obtain ⟨base, opt, hrun, ⟨hbase, hbase'⟩, hopt, hopt'⟩ :=
    syntheticTrials_ok num clock h host 1 config.trials [] []
  obtain ⟨report, hreport⟩ : ∃ report, compareAbTrials num rng (base.map (·.toBenchmarkMetrics))
      (opt.map (·.toBenchmarkMetrics)) = .ok report :=
    compareAbTrials_ok (by rwa [List.length_map, hbase]) (by rwa [List.length_map, hopt])
  have hlows := onePercentLows_synthetic hbase'
  have hlows' := onePercentLows_synthetic hopt'
  rw [hbase] at hlows
  rw [hopt] at hlows'
  refine ⟨report, ?_, compare_constant htrials (h.rate_pos false) hlows hlows' hreport, ?_⟩
  · rw [runSyntheticBenchmark, hrun, Option.bind_eq_bind, Option.bind_some, List.nil_append,
      List.nil_append]
    dsimp only
    rw [compareTrials, hreport]
  · obtain ⟨m, rest, rfl⟩ := List.exists_cons_of_length_pos (show 0 < base.length by omega)
    rw [(compareAbTrials_report hreport).provenance]
    exact (hbase' m List.mem_cons_self).provenance

theorem regular_default : (ABBenchmarkConfig.default : ABBenchmarkConfig ℝ).Regular where
  rate_pos b := by
    cases b
    · show (0 : ℝ) < (230 : ℕ)
      norm_num
    · show (0 : ℝ) < (255 : ℕ)
      norm_num
  frames := by decide

theorem default_report : ∃ report,
    runSyntheticBenchmark sampleNumerics xorshift64 (.default : ABBenchmarkConfig ℝ)
        ⟨10000000, 0, fun _ => 0⟩ (fun _ _ => ⟨none, none, none, none, 0⟩) = some (.ok report) ∧
      ConstantReport sampleNumerics 10 (230 : ℕ) (255 : ℕ) report ∧
      report.provenance = .synthetic 1000 :=
  runSynthetic_report regular_default (by decide) sampleNumerics xorshift64 _ _

end Benchmark

end ValOpt
