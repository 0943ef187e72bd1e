import ValOpt.Benchmarking.Equiv.MannWhitney

/-!
# Trials without noise

Trials that all have the same 1%-low, as those of a made-up run, leave the tests no variance: what
the statistics say of them is a function of the two values and of the number of the trials alone
(`compare_constant`).
-/

namespace ValOpt

open Statistics

variable {K : Type} [Field K] [LinearOrder K] [IsStrictOrderedRing K]

/-! ### Copies of a value -/

omit [LinearOrder K] [IsStrictOrderedRing K] in
theorem mean_replicate [CharZero K] {n : ℕ} (hn : 0 < n) (x : K) :
    mean (List.replicate n x) = x := by
  have hcount : (n : K) ≠ 0 := Nat.cast_ne_zero.mpr hn.ne'
  rw [mean, List.sum_replicate, List.length_replicate, nsmul_eq_mul, mul_div_cancel_left₀ _ hcount]

omit [LinearOrder K] [IsStrictOrderedRing K] in
theorem variance_replicate [CharZero K] {n : ℕ} (hn : 0 < n) (x : K) :
    variance (List.replicate n x) = 0 := by
  rw [variance, mean_replicate hn, List.map_replicate, sub_self, zero_pow two_ne_zero,
    List.sum_replicate, smul_zero, zero_div]

/-- The p-value of a t-test of values without noise. -/
def exactP (x y : K) : Extended K := .finite (if |x - y| < 1 / 10 ^ 12 then 1 else 0)

theorem welchTTest_replicate (num : Numerics K) {n : ℕ} (hn : 2 ≤ n) (x y : K) :
    ∃ t df, welchTTest num (List.replicate n x) (List.replicate n y) = .ok (t, df, exactP x y) := by
  have hse : num.sqrt (variance (List.replicate n x) / (n : K) +
      variance (List.replicate n y) / (n : K)) ≤ 1 / 10 ^ 12 := by
    rw [variance_replicate (by omega), variance_replicate (by omega), zero_div, add_zero,
      num.sqrt_zero]
    positivity
  rw [welchTTest, welchTTestWith, List.length_replicate, List.length_replicate, if_neg (by omega)]
  dsimp only
  rw [if_pos hse, mean_replicate (by omega), mean_replicate (by omega), exactP]
  split <;> exact ⟨_, _, rfl⟩

theorem pairedTTest_replicate (num : Numerics K) {n : ℕ} (hn : 2 ≤ n) (x y : K) :
    ∃ t df, pairedTTest num (List.replicate n x) (List.replicate n y) =
      .ok (t, df, exactP x y) := by
  have hcount : (n : K) ≠ 0 := Nat.cast_ne_zero.mpr (by omega)
  have hmean : (List.replicate n (y - x)).sum / (n : K) = y - x := by
    rw [List.sum_replicate, nsmul_eq_mul, mul_div_cancel_left₀ _ hcount]
  have hse : num.sqrt (((List.replicate n (y - x)).map fun d =>
      (d - (List.replicate n (y - x)).sum / (n : K)) ^ 2).sum / ((n - 1 : ℕ) : K) / (n : K)) ≤
        1 / 10 ^ 12 := by
    rw [hmean, List.map_replicate, sub_self, zero_pow two_ne_zero, List.sum_replicate, smul_zero,
      zero_div, zero_div, num.sqrt_zero]
    positivity
  rw [pairedTTest, pairedTTestWith, List.length_replicate, List.length_replicate,
    if_neg (not_not.mpr rfl), if_neg (by omega), List.zipWith_replicate']
  dsimp only
  rw [if_pos hse, hmean, exactP, abs_sub_comm x y]
  split <;> exact ⟨_, _, rfl⟩

/-! ### Two groups of ties -/

/-- A group of copies, and what comes after it. -/
theorem tieGroups_replicate_append {n : ℕ} {x : K} {rest : List K}
    (hrest : ∀ y ∈ rest.head?, 1 / 10 ^ 12 ≤ |y - x|) :
    tieGroups (List.replicate (n + 1) x ++ rest) = (n + 1) :: tieGroups rest := by
  have htied : ∀ y ∈ List.replicate n x, decide (|y - x| < 1 / 10 ^ 12) = true := by
    intro y hy
    rw [List.eq_of_mem_replicate hy, sub_self, abs_zero, decide_eq_true_eq]
    positivity
  have htake : rest.takeWhile (fun y => |y - x| < 1 / 10 ^ 12) = [] ∧
      rest.dropWhile (fun y => |y - x| < 1 / 10 ^ 12) = rest := by
    rcases rest with _ | ⟨y, rest⟩
    · exact ⟨rfl, rfl⟩
    · have hy : ¬ decide (|y - x| < 1 / 10 ^ 12) = true := by
        rw [decide_eq_true_eq, not_lt]
        exact hrest y rfl
      exact ⟨List.takeWhile_cons_of_neg hy, List.dropWhile_cons_of_neg hy⟩
  rw [List.replicate_succ, List.cons_append, tieGroups, List.takeWhile_append_of_pos htied,
    List.dropWhile_append_of_pos htied, htake.1, htake.2, List.append_nil, List.length_replicate,
    Nat.add_comm]

/-- The samples are apart, the first below the second. -/
theorem tieGroups_separate {n : ℕ} (hn : 0 < n) {x y : K} (h : 1 / 10 ^ 12 ≤ y - x) :
    tieGroups (sortedValues (List.replicate n x) (List.replicate n y)) = [n, n] := by
  have hle : x ≤ y := by
    have hsmall : (0 : K) < 1 / 10 ^ 12 := by positivity
    linarith
  have hsorted : (List.replicate n x ++ List.replicate n y).Pairwise (· ≤ ·) := by
    rw [List.pairwise_append]
    refine ⟨List.pairwise_replicate_of_refl, List.pairwise_replicate_of_refl, ?_⟩
    intro u hu v hv
    rw [List.eq_of_mem_replicate hu, List.eq_of_mem_replicate hv]
    exact hle
  obtain ⟨k, rfl⟩ := Nat.exists_eq_succ_of_ne_zero hn.ne'
  rw [sortedValues_of_sorted hsorted, tieGroups_replicate_append]
  · rw [← List.append_nil (List.replicate (k + 1) y), tieGroups_replicate_append (by simp),
      tieGroups]
  · intro v hv
    rw [List.replicate_succ, List.head?_cons, Option.mem_some_iff] at hv
    rw [← hv, abs_of_nonneg (by linarith)]
    exact h

/-- The variance of two separate groups of this size. -/
def separateVariance (K : Type) [Field K] (n : ℕ) : K :=
  (n : K) ^ 4 / (((4 : ℕ) : K) * (((2 : ℕ) : K) * n - 1))

theorem separateVariance_eq {c : K} (h : 2 ≤ c) :
    c * c / 12 * (2 * c + 1 - (c ^ 3 - c + (c ^ 3 - c)) / (2 * c * (2 * c - 1))) =
      c ^ 4 / (4 * (2 * c - 1)) := by
  have hc₁ : c ≠ 0 := by linarith
  have hc₂ : 2 * c - 1 ≠ 0 := by linarith
  -- with the divisor as a variable it cancels
  generalize hd : 2 * c - 1 = d at *
  have hc : c = (d + 1) / 2 := by linarith
  have hd₁ : d + 1 ≠ 0 := by
    intro hzero
    apply hc₁
    rw [hc, hzero, zero_div]
  subst hc
  field_simp
  ring

theorem varU_separate {n : ℕ} (hn : 2 ≤ n) {x y : K} (h : 1 / 10 ^ 12 ≤ y - x) :
    varU (List.replicate n x) (List.replicate n y) = separateVariance K n := by
  have hn' : (2 : K) ≤ n := by exact_mod_cast hn
  have hsum : ((n + n : ℕ) : K) = 2 * n := by
    push_cast
    ring
  rw [varU_eq, tieGroups_separate (by omega) h, List.length_replicate, List.length_replicate,
    tieSum, List.map_cons, List.map_singleton, List.sum_cons, List.sum_singleton, tieTerm, hsum,
    separateVariance_eq hn', separateVariance, Nat.cast_ofNat, Nat.cast_ofNat]

/-- The p-value of samples of this size that are apart. -/
def separationP (num : Numerics K) (n : ℕ) : K :=
  (statisticOf num ((n : K) * n) (separateVariance K n) ((n : K) * n)).2

theorem mannWhitneyUTest_separate (num : Numerics K) {n : ℕ} (hn : 2 ≤ n) {x y : K}
    (h : 1 / 10 ^ 12 ≤ y - x) :
    mannWhitneyUTest num (List.replicate n x) (List.replicate n y) =
      .ok (0, separationP num n) := by
  have hlt : x < y := by
    have hsmall : (0 : K) < 1 / 10 ^ 12 := by positivity
    linarith
  have hsep : Separated (List.replicate n x ++ List.replicate n y) := by
    intro u hu v hv
    rw [List.mem_append] at hu hv
    have habs : 1 / 10 ^ 12 ≤ |x - y| := by
      rw [abs_sub_comm, abs_of_nonneg (by linarith)]
      exact h
    rcases hu with hu | hu <;> rcases hv with hv | hv <;>
      rw [List.eq_of_mem_replicate hu, List.eq_of_mem_replicate hv]
    · exact .inl rfl
    · exact .inr habs
    · exact .inr (by rw [abs_sub_comm]; exact habs)
    · exact .inl rfl
  have hpairs : pairsAbove K (List.replicate n x) (List.replicate n y) = (n : K) * n := by
    have hall : ((List.replicate n x ×ˢ List.replicate n y).countP fun p => p.1 < p.2) = n * n := by
      rw [List.countP_eq_length.mpr, List.length_product, List.length_replicate,
        List.length_replicate]
      intro p hp
      obtain ⟨hp₁, hp₂⟩ := List.pair_mem_product.mp hp
      rw [decide_eq_true_eq, List.eq_of_mem_replicate hp₁, List.eq_of_mem_replicate hp₂]
      exact hlt
    have hnone : ((List.replicate n x ×ˢ List.replicate n y).countP fun p => p.1 = p.2) = 0 := by
      rw [List.countP_eq_zero]
      intro p hp
      obtain ⟨hp₁, hp₂⟩ := List.pair_mem_product.mp hp
      rw [decide_eq_true_eq, List.eq_of_mem_replicate hp₁, List.eq_of_mem_replicate hp₂]
      exact hlt.ne
    rw [pairsAbove, hall, hnone]
    push_cast
    ring
  have hzero : min ((n : K) * n) ((n : K) * n - (n : K) * n) = 0 := by
    rw [sub_self]
    exact min_eq_right (by positivity)
  rw [mannWhitneyUTest_eq_pairs (by rw [List.length_replicate]; exact hn)
    (by rw [List.length_replicate]; exact hn) hsep, List.length_replicate, List.length_replicate,
    hpairs, varU_separate hn h, separationP]
  congr 1
  ext
  · rw [statisticOf]
    exact hzero
  · rfl

/-! ### The comparison -/

section Comparison

variable [FloorSemiring K] {num : Numerics K} {rng : Generator}
    {base opt : List (BenchmarkMetrics K)}
  {report : ABComparisonReport K}

omit [IsStrictOrderedRing K] in
/-- The tests that a verdict is made of. -/
theorem compareAbTrials_verdict {u q : K} {t t' p p' : Extended K} {df df' : K}
    (hwelch : welchTTest num (onePercentLows base) (onePercentLows opt) = .ok (t, df, p))
    (hpaired : pairedTTest num (onePercentLows base) (onePercentLows opt) = .ok (t', df', p'))
    (hmw : mannWhitneyUTest num (onePercentLows base) (onePercentLows opt) = .ok (u, q))
    (h : compareAbTrials num rng base opt = .ok report) :
    report.pValue = p ∧ report.pairedPValue = p' ∧ report.mannWhitneyPValue = q ∧
    report.isStatisticallySignificant = ((p'.lt (1 / 100) || p.lt (1 / 100)) && q < 5 / 100 &&
      0 < report.bootstrapOnePercentCi.1) ∧
    report.meetsThreshold = (report.isStatisticallySignificant &&
      (report.deltaOnePercentLowPercent.ge 3 || report.deltaAvgFpsPercent.ge 3)) := by
  rw [onePercentLows, onePercentLows] at hwelch hpaired hmw
  rw [compareAbTrials] at h
  split at h
  next => exact absurd h (by simp [throw, throwThe, MonadExceptOf.throw, bind, Except.bind])
  next =>
    simp only [hwelch, hpaired, hmw, bind, Except.bind, pure, Except.pure, Except.ok.injEq] at h
    rw [← h]
    exact ⟨rfl, rfl, rfl, rfl, rfl⟩

omit [FloorSemiring K] in
theorem extended_lt_exactP {x y : K} :
    (exactP x y).lt (1 / 100) = decide (1 / 10 ^ 12 ≤ |x - y|) := by
  rw [exactP]
  split
  · next h =>
    rw [decide_eq_false (not_le.mpr h), Extended.lt, decide_eq_false_iff_not]
    norm_num
  · next h =>
    rw [decide_eq_true (not_lt.mp h), Extended.lt, decide_eq_true_eq]
    norm_num

/-- What a report says of the 1%-lows `x` and `y` in pairs of this number. -/
structure ConstantReport (num : Numerics K) (pairs : ℕ) (x y : K) (report : ABComparisonReport K) :
    Prop where
  trialsCount : report.trialsCount = pairs
  lows : report.baselineOnePercentLow = x ∧ report.optimizedOnePercentLow = y
  delta : report.deltaOnePercentLowPercent = .finite (percentChange x y)
  interval : report.bootstrapOnePercentCi = (percentChange x y, percentChange x y)
  pValues : report.pValue = exactP x y ∧ report.pairedPValue = exactP x y
  significant : report.isStatisticallySignificant = true ↔
    x + 1 / 10 ^ 12 ≤ y ∧ separationP num pairs < 5 / 100
  threshold : report.meetsThreshold = true ↔ report.isStatisticallySignificant = true ∧
    (3 ≤ percentChange x y ∨ report.deltaAvgFpsPercent.ge 3 = true)

/-- The interval of the bootstrap is one point, whatever the random numbers. -/
theorem comparisonCi_constant {n : ℕ} (hn : 2 ≤ n) {x y : K} (hx : 0 < x)
    (hbase : onePercentLows base = List.replicate n x)
    (hopt : onePercentLows opt = List.replicate n y) :
    comparisonCi rng base opt = (percentChange x y, percentChange x y) := by
  have hlength : (List.replicate n x).length = (List.replicate n y).length := by
    rw [List.length_replicate, List.length_replicate]
  obtain ⟨ci, hci⟩ : ∃ ci, bootstrapPairedPercentageDeltaCi rng (List.replicate n x)
      (List.replicate n y) 2000 (95 / 100) = .ok ci :=
    bootstrap_returns hlength (by rwa [List.length_replicate]) _ _
  have hchange : percentChange x y * x = (y - x) * 100 := by
    rw [percentChange, mul_right_comm, div_mul_cancel₀ _ hx.ne']
  have hpairs : ∀ i < (List.replicate n x).length, ChangeWithin (percentChange x y)
      (percentChange x y) ((List.replicate n x).getD i 0) ((List.replicate n y).getD i 0) := by
    intro i hi
    rw [List.length_replicate] at hi
    rw [List.getD_replicate _ hi, List.getD_replicate _ hi]
    exact ⟨hx.le, hchange.le, hchange.ge⟩
  have hwithin := bootstrap_within (by norm_num)
    (fun z hz => by rwa [List.eq_of_mem_replicate hz]) hpairs hci
  rw [comparisonCi, hbase, hopt, hci]
  change ci = _
  ext
  · exact le_antisymm hwithin.1.2 hwithin.1.1
  · exact le_antisymm hwithin.2.2 hwithin.2.1

theorem compare_constant {n : ℕ} (hn : 2 ≤ n) {x y : K} (hx : 0 < x)
    (hbase : onePercentLows base = List.replicate n x)
    (hopt : onePercentLows opt = List.replicate n y)
    (h : compareAbTrials num rng base opt = .ok report) : ConstantReport num n x y report := by
  have hsmall : (0 : K) < 1 / 10 ^ 12 := by positivity
  obtain ⟨t, df, hwelch⟩ := welchTTest_replicate num hn x y
  obtain ⟨t', df', hpaired⟩ := pairedTTest_replicate num hn x y
  have hreport := compareAbTrials_report h
  have hsummary := compareAbTrials_summary h
  have hci := hreport.ci.trans (comparisonCi_constant hn hx hbase hopt)
  have hdeltas := hreport.deltas
  obtain ⟨hbaseline, hoptimized, htrials, -⟩ := hsummary
  simp only [deltaMeans, List.zipWith_cons_cons, List.cons.injEq, hbase, hopt,
    mean_replicate (show 0 < n by omega)] at hbaseline hoptimized hdeltas
  have hdelta : report.deltaOnePercentLowPercent = .finite (percentChange x y) := by
    rw [hdeltas.2.1, deltaPercent, Extended.div, if_pos hx.ne', Extended.scale, percentChange]
  have hcount {runs : List (BenchmarkMetrics K)} {z : K}
      (hruns : onePercentLows runs = List.replicate n z) : runs.length = n := by
    rw [← List.length_map (fun r : BenchmarkMetrics K => r.onePercentLowFps), ← onePercentLows,
      hruns, List.length_replicate]
  obtain ⟨u, q, hmw, hq⟩ : ∃ u q, mannWhitneyUTest num (List.replicate n x) (List.replicate n y) =
      .ok (u, q) ∧ (x + 1 / 10 ^ 12 ≤ y → q = separationP num n) := by
    by_cases hxy : x + 1 / 10 ^ 12 ≤ y
    · exact ⟨_, _, mannWhitneyUTest_separate num hn (by linarith), fun _ => rfl⟩
    · exact ⟨_, _, mannWhitneyUTest_eq (by rwa [List.length_replicate])
        (by rwa [List.length_replicate]), fun hle => absurd hle hxy⟩
  rw [← hbase, ← hopt] at hwelch hpaired hmw
  obtain ⟨hp, hp', -, hsignificant, hthreshold⟩ := compareAbTrials_verdict hwelch hpaired hmw h
  constructor
  case trialsCount => rw [htrials, hcount hbase, hcount hopt, min_self]
  case lows => exact ⟨hbaseline.2.1, hoptimized.2.1⟩
  case delta => exact hdelta
  case interval => exact hci
  case pValues => exact ⟨hp, hp'⟩
  case significant =>
    rw [hsignificant, extended_lt_exactP, hci, Bool.or_self, Bool.and_eq_true, Bool.and_eq_true,
      decide_eq_true_eq, decide_eq_true_eq, decide_eq_true_eq, percentChange_pos_iff hx]
    constructor
    · rintro ⟨⟨habs, hlt⟩, hxy⟩
      rw [abs_sub_comm, abs_of_pos (sub_pos.mpr hxy)] at habs
      have hle : x + 1 / 10 ^ 12 ≤ y := by linarith
      exact ⟨hle, by rwa [← hq hle]⟩
    · rintro ⟨hle, hlt⟩
      have hxy : x < y := by linarith
      refine ⟨⟨?_, by rwa [hq hle]⟩, hxy⟩
      rw [abs_sub_comm, abs_of_pos (sub_pos.mpr hxy)]
      linarith
  case threshold =>
    rw [hthreshold, hdelta, Bool.and_eq_true, Bool.or_eq_true, Extended.ge, decide_eq_true_eq]

end Comparison

end ValOpt
