import Mathlib.Algebra.Order.BigOperators.Group.List
import ValOpt.Benchmarking.Stats
import ValOpt.Statistics.Basic

/-!
# The bootstrap interval

A percentile is an interpolation in the sorted list (`calculatePercentile_eq`).  The deltas that the
bootstrap interpolates are changes of sums of pairs, so each is within the bounds of the changes of
the pairs (`resampledDeltas_within`), whichever pairs the generator draws, and so is the interval
(`bootstrap_within`).  Two runs with the samples exchanged draw the same pairs, and at most one of
them finds an improvement in a resampling (`countP_resampledDeltas_swap`), while a positive lower
end takes improvements in nearly all of them (`improvements_of_bootstrap_pos`).
-/

namespace ValOpt

open Statistics

variable {K : Type} [Field K] {rng : Generator} {a b : List K}

/-! ### Resampling -/

/-- A property of sums that every pair has, and that survives addition, holds of the sums over the
pairs drawn. -/
theorem resample_induction {P : K → K → Prop}
    (hadd : ∀ x y x' y', P x y → P x' y' → P (x + x') (y + y'))
    (hpairs : ∀ i < a.length, P (a.getD i 0) (b.getD i 0)) (hne : a ≠ []) (draws : ℕ) {x y : K}
    (hxy : P x y) (state : rng.State) :
    P (resample rng a b draws x y state).1 (resample rng a b draws x y state).2.1 := by
  induction draws generalizing x y state with
  | zero => exact hxy
  | succ draws ih =>
    apply ih
    apply hadd _ _ _ _ hxy
    apply hpairs
    exact Nat.mod_lt _ (List.length_pos_iff.mpr hne)

/-- Exchanging the samples exchanges the sums, and the generator goes on from the same state. -/
theorem resample_swap (hlen : a.length = b.length) (draws : ℕ) (x y : K) (state : rng.State) :
    resample rng b a draws y x state = ((resample rng a b draws x y state).2.1,
      (resample rng a b draws x y state).1, (resample rng a b draws x y state).2.2) := by
  induction draws generalizing x y state with
  | zero => rfl
  | succ draws ih =>
    rw [resample, resample, ← hlen]
    exact ih _ _ _

variable [LinearOrder K] [IsStrictOrderedRing K]

/-- The sum over the pairs drawn is positive, when the sample is. -/
theorem resample_pos (ha : ∀ x ∈ a, 0 < x) (hne : a ≠ []) {draws : ℕ} (hdraws : 0 < draws)
    (state : rng.State) : 0 < (resample rng a b draws 0 0 state).1 := by
  have hget : ∀ i < a.length, 0 < a.getD i 0 := fun i hi => ha _ (getD_mem hi)
  obtain ⟨draws, rfl⟩ := Nat.exists_eq_succ_of_ne_zero hdraws.ne'
  -- The first draw makes the sum positive, and the others keep it so.
  apply resample_induction (P := fun x _ => 0 < x) (fun _ _ _ _ => add_pos) hget hne draws
  rw [zero_add]
  exact hget _ (Nat.mod_lt _ (List.length_pos_iff.mpr hne))

/-- One resampling, by the sums it makes. -/
theorem resampledDeltas_succ (hne : a ≠ []) (resamples : ℕ) (state : rng.State) :
    resampledDeltas rng a b (resamples + 1) state =
      let sums := resample rng a b a.length 0 0 state
      (if 0 < sums.1 then [percentChange sums.1 sums.2.1] else []) ++
        resampledDeltas rng a b resamples sums.2.2 := by
  have hn : (0 : K) < a.length := Nat.cast_pos.mpr (List.length_pos_iff.mpr hne)
  have hpos : ∀ x : K, 0 < x / a.length ↔ 0 < x := fun x => div_pos_iff_of_pos_right hn
  show (if 0 < _ / (a.length : K) then percentChange (_ / (a.length : K)) (_ / (a.length : K)) :: _
    else _) = _
  simp only [hpos, percentChange_div hn.ne']
  split <;> rfl

/-- Every delta is within the bounds of the changes of the pairs. -/
theorem resampledDeltas_within {lo hi : K} (hne : a ≠ [])
    (hpairs : ∀ i < a.length, ChangeWithin lo hi (a.getD i 0) (b.getD i 0)) (resamples : ℕ)
    (state : rng.State) : ∀ d ∈ resampledDeltas rng a b resamples state, lo ≤ d ∧ d ≤ hi := by
  induction resamples generalizing state with
  | zero => exact fun d hd => absurd hd List.not_mem_nil
  | succ resamples ih =>
    intro d hd
    rw [resampledDeltas_succ hne] at hd
    rcases List.mem_append.mp hd with hd | hd
    · have hsums := resample_induction (P := ChangeWithin lo hi) (fun _ _ _ _ => ChangeWithin.add)
        hpairs hne a.length ChangeWithin.zero state
      split at hd
      next hpos =>
        rw [List.mem_singleton.mp hd]
        exact (changeWithin_iff hpos).mp hsums
      next => exact absurd hd List.not_mem_nil
    · exact ih _ d hd

/-- Every resampling of a positive sample counts. -/
theorem length_resampledDeltas (ha : ∀ x ∈ a, 0 < x) (hne : a ≠ []) (resamples : ℕ)
    (state : rng.State) : (resampledDeltas rng a b resamples state).length = resamples := by
  induction resamples generalizing state with
  | zero => rfl
  | succ resamples ih =>
    have hpos := resample_pos (b := b) ha hne (List.length_pos_iff.mpr hne) state
    rw [resampledDeltas_succ hne]
    simp only [if_pos hpos, List.length_append, ih, List.length_singleton]
    omega

/-- In each resampling at most one of the two runs finds an improvement. -/
theorem countP_resampledDeltas_swap (hlen : a.length = b.length) (hne : a ≠ []) (resamples : ℕ)
    (state : rng.State) : (resampledDeltas rng a b resamples state).countP (0 < ·) +
      (resampledDeltas rng b a resamples state).countP (0 < ·) ≤ resamples := by
  induction resamples generalizing state with
  | zero => rfl
  | succ resamples ih =>
    have hne' : b ≠ [] := List.length_pos_iff.mp (hlen ▸ List.length_pos_iff.mpr hne)
    rw [resampledDeltas_succ hne, resampledDeltas_succ hne', ← hlen, resample_swap hlen]
    generalize resample rng a b a.length 0 0 state = sums
    obtain ⟨x, y, state⟩ := sums
    have hrest := ih state
    -- The change from `x` to `y` and that from `y` to `x` are not both positive.
    have hone : (if 0 < x then [percentChange x y] else []).countP (0 < ·) +
        (if 0 < y then [percentChange y x] else []).countP (0 < ·) ≤ 1 := by
      by_cases hx : 0 < x
      · by_cases hy : 0 < y
        · rw [if_pos hx, if_pos hy, List.countP_singleton, List.countP_singleton]
          simp only [percentChange_pos_iff hx, percentChange_pos_iff hy, decide_eq_true_eq]
          by_cases hxy : x < y
          · rw [if_pos hxy, if_neg hxy.not_gt]
          · rw [if_neg hxy]
            split <;> omega
        · rw [if_neg hy]
          exact List.countP_le_length.trans (by rw [if_pos hx]; rfl)
      · rw [if_neg hx, List.countP_nil, Nat.zero_add]
        apply List.countP_le_length.trans
        split <;> simp
    simp only [List.countP_append]
    omega

/-! ### Percentiles -/

/-- The rank of a percentile in a list. -/
def percentileRank (xs : List K) (percentile : K) : K :=
  max 0 (min percentile 100) / 100 * (xs.length - 1 : ℕ)

variable {xs : List K} {p q : K}

theorem percentileRank_nonneg (xs : List K) (p : K) : 0 ≤ percentileRank xs p :=
  mul_nonneg (div_nonneg (le_max_left _ _) (by norm_num)) (Nat.cast_nonneg _)

theorem percentileRank_mono (xs : List K) (h : p ≤ q) :
    percentileRank xs p ≤ percentileRank xs q := by
  apply mul_le_mul_of_nonneg_right _ (Nat.cast_nonneg _)
  apply div_le_div_of_nonneg_right _ (by norm_num)
  exact max_le_max_left 0 (min_le_min_right 100 h)

theorem percentileRank_le (xs : List K) (p : K) : percentileRank xs p ≤ (xs.length - 1 : ℕ) := by
  apply mul_le_of_le_one_left (Nat.cast_nonneg _)
  rw [div_le_one (by norm_num)]
  exact max_le (by norm_num) (min_le_right _ _)

variable [FloorSemiring K]

theorem calculatePercentile_eq (h : xs ≠ []) (p : K) :
    calculatePercentile xs p = interpolate xs (percentileRank xs p) := by
  have hpos : xs.length ≠ 0 := by simpa using h
  rw [calculatePercentile, if_neg hpos]
  by_cases hone : xs.length = 1
  · -- The rank of every percentile is 0.
    have hrank : percentileRank xs p = 0 := by simp [percentileRank, hone]
    rw [if_pos hone, hrank]
    simp [interpolate]
  · rw [if_neg hone]
    rfl

/-- Percentiles grow with the percentage. -/
theorem calculatePercentile_mono (hs : xs.SortedLE) (h : xs ≠ []) (hpq : p ≤ q) :
    calculatePercentile xs p ≤ calculatePercentile xs q := by
  rw [calculatePercentile_eq h, calculatePercentile_eq h]
  exact interpolate_mono hs h (percentileRank_nonneg _ _) (percentileRank_mono _ hpq)
    (percentileRank_le _ _)

theorem le_calculatePercentile (hs : xs.SortedLE) (h : xs ≠ []) {c : K} (hc : ∀ x ∈ xs, c ≤ x) :
    c ≤ calculatePercentile xs p := by
  rw [calculatePercentile_eq h]
  exact le_interpolate hs h (percentileRank_nonneg _ _) (percentileRank_le _ _) hc

theorem calculatePercentile_le (hs : xs.SortedLE) (h : xs ≠ []) {c : K} (hc : ∀ x ∈ xs, x ≤ c) :
    calculatePercentile xs p ≤ c := by
  rw [calculatePercentile_eq h]
  exact interpolate_le hs h (percentileRank_le _ _) hc

/-! ### The interval -/

section Interval

variable {resamples : ℕ} {level : K} {ci : K × K}

omit [IsStrictOrderedRing K] in
/-- A call that returns has samples of one size, at least 2, and interpolates in the sorted
deltas. -/
theorem bootstrap_ok (h : bootstrapPairedPercentageDeltaCi rng a b resamples level = .ok ci) :
    a.length = b.length ∧ 2 ≤ a.length ∧
      let deltas := resampledDeltas rng a b resamples rng.seed
      if deltas = [] then ci = (0, 0)
      else ci = (calculatePercentile (deltas.mergeSort (· ≤ ·)) ((1 - level) / 2 * 100),
        calculatePercentile (deltas.mergeSort (· ≤ ·)) ((1 - (1 - level) / 2) * 100)) := by
  rw [bootstrapPairedPercentageDeltaCi] at h
  split at h
  next => exact absurd h (by simp)
  next hlen =>
    split at h
    next => exact absurd h (by simp)
    next htwo =>
      refine ⟨not_not.mp hlen, not_lt.mp htwo, ?_⟩
      dsimp only at h ⊢
      split at h
      next hnil =>
        rw [if_pos hnil]
        exact (Except.ok.inj h).symm
      next hne =>
        rw [if_neg hne]
        exact (Except.ok.inj h).symm

omit [IsStrictOrderedRing K] in
/-- A call with samples of one size, at least 2, returns. -/
theorem bootstrap_returns (hlen : a.length = b.length) (htwo : 2 ≤ a.length) (resamples : ℕ)
    (level : K) : ∃ ci, bootstrapPairedPercentageDeltaCi rng a b resamples level = .ok ci := by
  rw [bootstrapPairedPercentageDeltaCi, if_neg (not_not.mpr hlen), if_neg (not_lt.mpr htwo)]
  dsimp only
  split <;> exact ⟨_, rfl⟩

/-- The lower end is not above the upper end. -/
theorem bootstrap_ordered (hlevel : 0 ≤ level)
    (h : bootstrapPairedPercentageDeltaCi rng a b resamples level = .ok ci) : ci.1 ≤ ci.2 := by
  have hci := (bootstrap_ok h).2.2
  dsimp only at hci
  split at hci
  next => rw [hci]
  next hne =>
    rw [hci]
    apply calculatePercentile_mono List.sortedLE_mergeSort (mergeSort_ne_nil hne)
    linarith

/-- The interval of a positive sample is within the bounds of the changes of the pairs. -/
theorem bootstrap_within (hresamples : 0 < resamples) (ha : ∀ x ∈ a, 0 < x) {lo hi : K}
    (hpairs : ∀ i < a.length, ChangeWithin lo hi (a.getD i 0) (b.getD i 0))
    (h : bootstrapPairedPercentageDeltaCi rng a b resamples level = .ok ci) :
    (lo ≤ ci.1 ∧ ci.1 ≤ hi) ∧ lo ≤ ci.2 ∧ ci.2 ≤ hi := by
  obtain ⟨-, htwo, hci⟩ := bootstrap_ok h
  have hne : a ≠ [] := List.length_pos_iff.mp (by omega)
  have hlen := length_resampledDeltas (b := b) ha hne resamples rng.seed
  have hdeltas : resampledDeltas rng a b resamples rng.seed ≠ [] :=
    List.length_pos_iff.mp (by omega)
  have hall : ∀ d ∈ (resampledDeltas rng a b resamples rng.seed).mergeSort (· ≤ ·),
      lo ≤ d ∧ d ≤ hi := by
    intro d hd
    exact resampledDeltas_within hne hpairs resamples rng.seed d (List.mem_mergeSort.mp hd)
  have hs := List.sortedLE_mergeSort (l := resampledDeltas rng a b resamples rng.seed)
  have hpercentile : ∀ p, lo ≤ calculatePercentile
      ((resampledDeltas rng a b resamples rng.seed).mergeSort (· ≤ ·)) p ∧ calculatePercentile
      ((resampledDeltas rng a b resamples rng.seed).mergeSort (· ≤ ·)) p ≤ hi := fun p =>
    ⟨le_calculatePercentile hs (mergeSort_ne_nil hdeltas) fun d hd => (hall d hd).1,
      calculatePercentile_le hs (mergeSort_ne_nil hdeltas) fun d hd => (hall d hd).2⟩
  dsimp only at hci
  rw [if_neg hdeltas] at hci
  rw [hci]
  exact ⟨hpercentile _, hpercentile _⟩

end Interval

/-- The 2.5th percentile of 2000 values is read off between the 50th and the 51st. -/
theorem floor_percentileRank (hlen : xs.length = 2000) :
    ⌊percentileRank xs ((1 - 95 / 100) / 2 * 100)⌋₊ = 49 := by
  have hrank : percentileRank xs ((1 - 95 / 100) / 2 * 100) = 1999 / 40 := by
    rw [percentileRank, hlen]
    norm_num
  rw [hrank, Nat.floor_eq_iff (by norm_num)]
  norm_num

/-- If the lower end is positive, 1950 resamplings of the 2000 show an improvement. -/
theorem improvements_of_bootstrap_pos {ci : K × K} (ha : ∀ x ∈ a, 0 < x)
    (h : bootstrapPairedPercentageDeltaCi rng a b 2000 (95 / 100) = .ok ci) (hpos : 0 < ci.1) :
    1950 ≤ (resampledDeltas rng a b 2000 rng.seed).countP (0 < ·) := by
  obtain ⟨-, htwo, hci⟩ := bootstrap_ok h
  have hne : a ≠ [] := List.length_pos_iff.mp (by omega)
  have hlen := length_resampledDeltas (b := b) ha hne 2000 rng.seed
  generalize resampledDeltas rng a b 2000 rng.seed = deltas at hlen hci ⊢
  have hdeltas : deltas ≠ [] := List.length_pos_iff.mp (by omega)
  have hsorted : deltas.mergeSort (· ≤ ·) ≠ [] := mergeSort_ne_nil hdeltas
  have hslen : (deltas.mergeSort (· ≤ ·)).length = 2000 := by rw [List.length_mergeSort, hlen]
  dsimp only at hci
  rw [if_neg hdeltas] at hci
  rw [hci, calculatePercentile_eq hsorted] at hpos
  have hcount := length_le_countP_of_lt_interpolate List.sortedLE_mergeSort hsorted
    (percentileRank_le _ _) hpos
  rw [floor_percentileRank hslen, hslen, (List.mergeSort_perm deltas _).countP_eq] at hcount
  omega

/-- The lower ends of a run and of that with the samples exchanged are not both positive. -/
theorem bootstrap_swap {ci ci' : K × K} (ha : ∀ x ∈ a, 0 < x) (hb : ∀ x ∈ b, 0 < x)
    (h : bootstrapPairedPercentageDeltaCi rng a b 2000 (95 / 100) = .ok ci)
    (h' : bootstrapPairedPercentageDeltaCi rng b a 2000 (95 / 100) = .ok ci') :
    ¬ (0 < ci.1 ∧ 0 < ci'.1) := by
  intro ⟨hpos, hpos'⟩
  obtain ⟨hlen, htwo, -⟩ := bootstrap_ok h
  have hne : a ≠ [] := List.length_pos_iff.mp (by omega)
  have hcount := improvements_of_bootstrap_pos ha h hpos
  have hcount' := improvements_of_bootstrap_pos hb h' hpos'
  have hswap := countP_resampledDeltas_swap hlen hne 2000 rng.seed
  omega

end ValOpt
