import ValOpt.Benchmarking.Equiv.Comparison

/-!
# The verdict on the variance

Levene's test compares the mean deviations from the medians (`spread`) of the per-trial pacing, but
`compare_ab_trials` takes the direction of its verdict from the mean pacing.  The two are
independent: whether the verdict is right, whatever p-value the test gets, comes down to where it
can be given at all (`variance_verdict_iff`).
-/

namespace ValOpt

open Statistics

variable {K : Type} [Field K] [LinearOrder K] [FloorSemiring K] {num : Numerics K}
  {base opt : List (BenchmarkMetrics K)}

/-! ### Spread -/

/-- The deviations from the median. -/
def deviations (sample : List K) : List K :=
  sample.map fun x => |x - calculatePercentile (sample.mergeSort (· ≤ ·)) 50|

/-- The mean deviation from the median. -/
def spread (sample : List K) : K := (deviations sample).sum / sample.length

/-- `ss_between`. -/
def ssBetween (sampleA sampleB : List K) : K :=
  let overall := ((deviations sampleA).sum + (deviations sampleB).sum) /
    (sampleA.length + sampleB.length : ℕ)
  sampleA.length * (spread sampleA - overall) ^ 2 + sampleB.length * (spread sampleB - overall) ^ 2

/-- `ss_within`. -/
def ssWithin (sampleA sampleB : List K) : K :=
  ((deviations sampleA).map fun z => (z - spread sampleA) ^ 2).sum +
    ((deviations sampleB).map fun z => (z - spread sampleB) ^ 2).sum

/-- Levene's test compares the spreads. -/
theorem leveneVarianceTest_eq {a b : List K} (ha : 2 ≤ a.length) (hb : 2 ≤ b.length) :
    leveneVarianceTest num a b =
      if ssWithin a b ≤ 1 / 10 ^ 12 then
        .ok (0, .finite (if ssBetween a b < 1 / 10 ^ 12 then 1 else 0))
      else
        let fStat := ssBetween a b / 1 / (ssWithin a b / (a.length + b.length - 2 : ℕ))
        .ok (fStat, computeTDistributionTwoTailedP num (num.sqrt fStat)
          (a.length + b.length - 2 : ℕ)) := by
  rw [leveneVarianceTest, leveneVarianceTestWith, if_neg (by omega)]
  dsimp only
  rw [← deviations, ← deviations, ← spread, ← spread, ← ssWithin, ← ssBetween]
  rfl

/-! ### The verdict -/

/-- All deviations are the same, up to the tolerance of the test. -/
def EqualDeviations (sampleA sampleB : List K) : Prop :=
  ssWithin sampleA sampleB ≤ 1 / 10 ^ 12 ∧ ssBetween sampleA sampleB < 1 / 10 ^ 12

theorem leveneP_of_equal (hbase : 2 ≤ base.length) (hopt : 2 ≤ opt.length)
    (h : EqualDeviations (pacings base) (pacings opt)) : leveneP num base opt = .finite 1 := by
  have hlen : ∀ runs : List (BenchmarkMetrics K), (pacings runs).length = runs.length := fun _ =>
    List.length_map _
  rw [leveneP, leveneVarianceTest_eq (by rwa [hlen]) (by rwa [hlen]), if_pos h.1, if_pos h.2]
  rfl

/-- The same numbers with another p-value function. -/
def Numerics.withP (num : Numerics K) (p : K → K → K → Extended K) : Numerics K :=
  { num with regularizedIncompleteBeta := p }

/-- Otherwise there are p-values for which the test is significant. -/
theorem leveneP_of_not_equal [IsStrictOrderedRing K] (hbase : 2 ≤ base.length)
    (hopt : 2 ≤ opt.length) (h : ¬ EqualDeviations (pacings base) (pacings opt)) :
    leveneP (num.withP fun _ _ _ => .finite 0) base opt = .finite 0 := by
  have hlen : ∀ runs : List (BenchmarkMetrics K), (pacings runs).length = runs.length := fun _ =>
    List.length_map _
  have hdf : ¬ (((pacings base).length + (pacings opt).length - 2 : ℕ) : K) ≤ 0 := by
    rw [Nat.cast_nonpos, hlen, hlen]
    omega
  have hp : ∀ t : K, computeTDistributionTwoTailedP (num.withP fun _ _ _ => .finite 0) t
      ((pacings base).length + (pacings opt).length - 2 : ℕ) = .finite 0 := fun t => if_neg hdf
  rw [leveneP, leveneVarianceTest_eq (by rwa [hlen]) (by rwa [hlen])]
  dsimp only
  rw [hp]
  split
  next hwithin =>
    rw [if_neg fun hbetween => h ⟨hwithin, hbetween⟩]
    rfl
  next => rfl

/-- **Where the verdict on the variance is right** for any p-value of the test: the direction is
that of the mean pacing, so the spread may well have grown. -/
theorem variance_verdict_iff [IsStrictOrderedRing K] (num : Numerics K)
    (base opt : List (BenchmarkMetrics K)) :
    (∀ p rng report, compareAbTrials (num.withP p) rng base opt = .ok report →
      report.isVarianceSignificantlyReduced = true →
        spread (pacings opt) < spread (pacings base)) ↔
    base.length < 2 ∨ opt.length < 2 ∨ mean (pacings base) ≤ mean (pacings opt) ∨
      EqualDeviations (pacings base) (pacings opt) ∨
        spread (pacings opt) < spread (pacings base) := by
  constructor
  · intro h
    by_contra hcond
    simp only [not_or, not_lt, not_le] at hcond
    obtain ⟨hbase, hopt, hmean, hequal, hspread⟩ := hcond
    -- a p-value of zero makes any difference of the deviations significant
    obtain ⟨report, hreport⟩ : ∃ report, compareAbTrials (num.withP fun _ _ _ => .finite 0)
        xorshift64 base opt = .ok report := compareAbTrials_ok hbase hopt
    have hreduced : report.isVarianceSignificantlyReduced = true := by
      rw [(compareAbTrials_report hreport).reduced, leveneP_of_not_equal hbase hopt hequal,
        Bool.and_eq_true, decide_eq_true_eq]
      constructor
      · rw [Extended.lt, decide_eq_true_eq]
        norm_num
      · exact hmean
    exact absurd (h _ _ _ hreport hreduced) hspread.not_gt
  · intro h p rng report hreport hreduced
    have hspec := compareAbTrials_report hreport
    rw [hspec.reduced, Bool.and_eq_true, decide_eq_true_eq] at hreduced
    rcases h with hbase | hopt | hmean | hequal | hspread
    · exact absurd hspec.two_le_base hbase.not_ge
    · exact absurd hspec.two_le_opt hopt.not_ge
    · exact absurd hreduced.2 hmean.not_gt
    · -- the p-value of equal deviations is one
      have hlt := hreduced.1
      rw [leveneP_of_equal hspec.two_le_base hspec.two_le_opt hequal, Extended.lt,
        decide_eq_true_eq] at hlt
      norm_num at hlt
    · exact hspread

/-! ### Instances -/

/-- A trial with this pacing. -/
def pacedRun (pacing : ℝ) : BenchmarkMetrics ℝ where
  provenance := .default
  environment := none
  avgFps := 100
  onePercentLowFps := 100
  zeroPointOnePercentLowFps := 100
  frameTimeStdDevMs := pacing

theorem deviations_pair {x y : ℝ} (h : x ≤ y) : deviations [x, y] = [(y - x) / 2, (y - x) / 2] := by
  have hsorted : [x, y].mergeSort (· ≤ ·) = [x, y] := List.mergeSort_of_pairwise (by simp [h])
  have hfloor : ⌊(1 / 2 : ℝ)⌋₊ = 0 := by norm_num [Nat.floor_eq_zero]
  have hmedian : calculatePercentile [x, y] 50 = (x + y) / 2 := by
    norm_num [calculatePercentile, hfloor]
    ring
  have hx : x - (x + y) / 2 = - ((y - x) / 2) := by ring
  have hy : y - (x + y) / 2 = (y - x) / 2 := by ring
  have hnonneg : 0 ≤ (y - x) / 2 := by linarith
  rw [deviations, hsorted, hmedian, List.map_cons, List.map_singleton, hx, hy, abs_neg,
    abs_of_nonneg hnonneg]

theorem spread_pacedRun {x y : ℝ} (h : x ≤ y) :
    spread (pacings [pacedRun x, pacedRun y]) = (y - x) / 2 := by
  have hpacings : pacings [pacedRun x, pacedRun y] = [x, y] := rfl
  rw [hpacings, spread, deviations_pair h, List.sum_cons, List.sum_singleton]
  norm_num

/-- The pacing varies more from trial to trial than before, and is reported as less variable. -/
theorem variance_verdict_wrong : ∃ report,
    compareAbTrials sampleNumerics xorshift64 [pacedRun 10, pacedRun 10] [pacedRun 1, pacedRun 5] =
      .ok report ∧ report.isVarianceSignificantlyReduced = true ∧
    spread (pacings [pacedRun 10, pacedRun 10]) = 0 ∧
    spread (pacings [pacedRun 1, pacedRun 5]) = 2 := by
  have hbase : pacings [pacedRun 10, pacedRun 10] = [10, 10] := rfl
  have hopt : pacings [pacedRun 1, pacedRun 5] = [1, 5] := rfl
  have hdev : deviations [10, 10] = [0, (0 : ℝ)] := by
    rw [deviations_pair (le_refl 10)]
    norm_num
  have hdev' : deviations [1, 5] = [2, (2 : ℝ)] := by
    rw [deviations_pair (by norm_num)]
    norm_num
  have hspread : spread [10, (10 : ℝ)] = 0 := by
    rw [← hbase, spread_pacedRun (le_refl 10), sub_self, zero_div]
  have hspread' : spread [1, (5 : ℝ)] = 2 := by
    rw [← hopt, spread_pacedRun (by norm_num)]
    norm_num
  obtain ⟨report, hreport⟩ : ∃ report, compareAbTrials sampleNumerics xorshift64
      [pacedRun 10, pacedRun 10] [pacedRun 1, pacedRun 5] = .ok report :=
    compareAbTrials_ok (le_refl 2) (le_refl 2)
  refine ⟨report, hreport, ?_, by rw [hbase, hspread], by rw [hopt, hspread']⟩
  rw [(compareAbTrials_report hreport).reduced, leveneP, hbase, hopt,
    leveneVarianceTest_eq (le_refl 2) (le_refl 2)]
  have hwithin : ssWithin [10, 10] [1, (5 : ℝ)] = 0 := by
    norm_num [ssWithin, hdev, hdev', hspread, hspread']
  have hbetween : ssBetween [10, 10] [1, (5 : ℝ)] = 4 := by
    norm_num [ssBetween, hdev, hdev', hspread, hspread']
  rw [hwithin, hbetween]
  norm_num [mean, Except.toOption, Extended.lt]

theorem variance_verdict_right : ∃ report,
    compareAbTrials sampleNumerics xorshift64 [pacedRun 1, pacedRun 5] [pacedRun 10, pacedRun 10] =
      .ok report ∧
    (report.isVarianceSignificantlyReduced = true →
      spread (pacings [pacedRun 10, pacedRun 10]) < spread (pacings [pacedRun 1, pacedRun 5])) := by
  obtain ⟨report, hreport⟩ : ∃ report, compareAbTrials sampleNumerics xorshift64
      [pacedRun 1, pacedRun 5] [pacedRun 10, pacedRun 10] = .ok report :=
    compareAbTrials_ok (le_refl 2) (le_refl 2)
  refine ⟨report, hreport, ?_⟩
  have hspread : spread (pacings [pacedRun 10, pacedRun 10]) <
      spread (pacings [pacedRun 1, pacedRun 5]) := by
    rw [spread_pacedRun (le_refl 10), spread_pacedRun (by norm_num)]
    norm_num
  exact (variance_verdict_iff sampleNumerics _ _).mpr (.inr (.inr (.inr (.inr hspread))))
    sampleNumerics.regularizedIncompleteBeta xorshift64 report hreport

end ValOpt
