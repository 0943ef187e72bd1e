import ValOpt.Benchmarking.Equiv.Comparison
import ValOpt.Benchmarking.Extended

/-!
# The t-tests

Both t-tests make their result of a standard error and the difference of the means in the same way
(`tTestOf`).  Where the error is not negligible, the statistic is negated where the samples are
swapped and has the sign of the difference, and Welch's degrees of freedom are between those of one
sample and those of both (`welch_degrees`).  Where it is negligible, any two means that differ give
`+∞`, so both laws fail (`tTests_antisymmetric_iff`), unlike those of `compute_cohens_d`, which
returns `-∞` for the negative difference (`computeCohensD_swap`).
-/

namespace ValOpt

open Statistics

variable {K : Type} [Field K] [LinearOrder K]

/-! ### Numbers with signs -/

/-- A test that negates its statistic where the samples are swapped, and changes nothing else. -/
def Antisymmetric (test : List K → List K → Except String (Extended K × K × Extended K))
    (a b : List K) : Prop :=
  ∀ t df p, test a b = .ok (t, df, p) → test b a = .ok (t.neg, df, p)

/-- A test whose statistic has the sign of the difference of the means. -/
def Directed (test : List K → List K → Except String (Extended K × K × Extended K))
    (a b : List K) : Prop :=
  ∀ t df p, test a b = .ok (t, df, p) →
    (t.gt 0 = true ↔ mean a < mean b) ∧ (t.lt 0 = true ↔ mean b < mean a)

/-! ### The standard errors -/

/-- `se_diff` of Welch's test. -/
def welchSe (num : Numerics K) (a b : List K) : K :=
  num.sqrt (variance a / a.length + variance b / b.length)

/-- `diffs`. -/
def diffs (a b : List K) : List K := List.zipWith (fun b a => b - a) b a

/-- `se_diff` of the paired test. -/
def pairedSe (num : Numerics K) (a b : List K) : K :=
  num.sqrt (((diffs a b).map fun d => (d - (diffs a b).sum / a.length) ^ 2).sum /
    (a.length - 1 : ℕ) / a.length)

variable {num : Numerics K} {a b : List K}

theorem welchSe_swap (num : Numerics K) (a b : List K) : welchSe num b a = welchSe num a b := by
  rw [welchSe, welchSe, add_comm]

omit [LinearOrder K] in
theorem diffs_swap (a b : List K) : diffs b a = (diffs a b).map (- ·) := by
  rw [diffs, diffs, List.map_zipWith, List.zipWith_comm]
  simp

omit [LinearOrder K] in
theorem sum_diffs (h : a.length = b.length) : (diffs a b).sum = b.sum - a.sum := by
  induction a generalizing b with
  | nil =>
    rw [List.eq_nil_of_length_eq_zero h.symm]
    simp [diffs]
  | cons x a ih =>
    obtain ⟨y, b, rfl⟩ := List.exists_cons_of_length_eq_add_one h.symm
    have htail := ih (Nat.succ.inj h)
    rw [diffs] at htail ⊢
    rw [List.zipWith_cons_cons, List.sum_cons, List.sum_cons, List.sum_cons, htail]
    ring

omit [LinearOrder K] in
theorem mean_diffs (h : a.length = b.length) : (diffs a b).sum / a.length = mean b - mean a := by
  rw [sum_diffs h, mean, mean, ← h, sub_div]

theorem pairedSe_swap (num : Numerics K) (h : a.length = b.length) :
    pairedSe num b a = pairedSe num a b := by
  have hsum : (diffs b a).sum = - (diffs a b).sum := by
    rw [diffs_swap, List.sum_neg]
  have hsquares : ((diffs b a).map fun d => (d - (diffs b a).sum / b.length) ^ 2) =
      (diffs a b).map fun d => (d - (diffs a b).sum / a.length) ^ 2 := by
    rw [hsum, diffs_swap, List.map_map, h]
    apply List.map_congr_left
    intro d _
    rw [Function.comp_apply]
    ring
  rw [pairedSe, pairedSe, hsquares, h]

/-! ### The common form -/

/-- What both tests make of a standard error and a difference, with the degrees of freedom where
the error is negligible and where it is not. -/
def tTestOf (num : Numerics K) (seDiff diff dfDegenerate df : K) : Extended K × K × Extended K :=
  if seDiff ≤ 1 / 10 ^ 12 then
    if |diff| < 1 / 10 ^ 12 then (.finite 0, dfDegenerate, .finite 1)
    else (.infinity, dfDegenerate, .finite 0)
  else (.finite (diff / seDiff), df, computeTDistributionTwoTailedP num |diff / seDiff| df)

/-- The degrees of freedom of Welch's test. -/
def welchDf (a b : List K) : K :=
  satterthwaite (variance a / a.length) (variance b / b.length) (a.length - 1) (b.length - 1)

omit [LinearOrder K] in
theorem welchDf_swap (a b : List K) : welchDf b a = welchDf a b := satterthwaite_swap _ _ _ _

theorem welchTTest_eq [IsStrictOrderedRing K] (ha : 2 ≤ a.length) (hb : 2 ≤ b.length) :
    welchTTest num a b = .ok (tTestOf num (welchSe num a b) (mean b - mean a)
      (a.length + b.length - 2) (welchDf a b)) := by
  rw [welchTTest, welchTTestWith, if_neg (by omega), tTestOf, abs_sub_comm (mean b)]
  dsimp only
  rw [← welchSe]
  split
  · split <;> rfl
  · rfl

theorem pairedTTest_eq (hlen : a.length = b.length) (ha : 2 ≤ a.length) :
    pairedTTest num a b = .ok (tTestOf num (pairedSe num a b) (mean b - mean a)
      (a.length - 1 : ℕ) (a.length - 1 : ℕ)) := by
  rw [pairedTTest, pairedTTestWith, if_neg (by omega), if_neg (by omega), tTestOf,
    ← mean_diffs hlen]
  dsimp only
  rw [← diffs, ← pairedSe]
  split
  · split <;> rfl
  · rfl

section Form

variable (num) (seDiff diff dfDegenerate df : K)

/-- The statistic is negated with the difference, unless it is `+∞`. -/
theorem tTestOf_neg_iff : tTestOf num seDiff (-diff) dfDegenerate df =
      ((tTestOf num seDiff diff dfDegenerate df).1.neg,
        (tTestOf num seDiff diff dfDegenerate df).2) ↔
    1 / 10 ^ 12 < seDiff ∨ |diff| < 1 / 10 ^ 12 := by
  rw [tTestOf, tTestOf, abs_neg]
  split
  next hse =>
    rw [or_iff_right hse.not_gt]
    split
    next hdiff =>
      apply iff_of_true _ hdiff
      rw [Extended.neg, neg_zero]
    next hdiff =>
      apply iff_of_false _ hdiff
      simp [Extended.neg]
  next hse =>
    apply iff_of_true _ (.inl (not_le.mp hse))
    rw [neg_div, abs_neg]
    rfl

variable [IsStrictOrderedRing K]

/-- The statistic has the sign of the difference, unless that is negligible or the statistic `+∞`
is not due to a positive difference. -/
theorem tTestOf_sign_iff : (((tTestOf num seDiff diff dfDegenerate df).1.gt 0 = true ↔ 0 < diff) ∧
      ((tTestOf num seDiff diff dfDegenerate df).1.lt 0 = true ↔ diff < 0)) ↔
    1 / 10 ^ 12 < seDiff ∨ diff = 0 ∨ 1 / 10 ^ 12 ≤ diff := by
  have htol : (0 : K) < 1 / 10 ^ 12 := by positivity
  rw [tTestOf]
  split
  next hse =>
    rw [or_iff_right hse.not_gt]
    split
    next hdiff =>
      have hsmall := (abs_lt.mp hdiff).2
      simp only [Extended.gt, Extended.lt, lt_self_iff_false, decide_false, Bool.false_eq_true,
        false_iff, not_lt]
      constructor
      · intro h
        exact .inl (le_antisymm h.1 h.2)
      · rintro (rfl | h)
        · exact ⟨le_rfl, le_rfl⟩
        · linarith
    next hdiff =>
      simp only [Extended.gt, Extended.lt, Bool.false_eq_true, true_iff, false_iff, not_lt]
      constructor
      · intro h
        rw [abs_of_pos h.1, not_lt] at hdiff
        exact .inr hdiff
      · rintro (rfl | h)
        · rw [abs_zero] at hdiff
          exact absurd htol hdiff
        · exact ⟨by linarith, by linarith⟩
  next hse =>
    have hpos : 0 < seDiff := htol.trans (not_le.mp hse)
    apply iff_of_true _ (.inl (not_le.mp hse))
    simp [Extended.gt, Extended.lt, div_pos_iff_of_pos_right hpos, div_neg_iff, hpos, hpos.not_gt]

end Form

section Laws

variable {test : List K → List K → Except String (Extended K × K × Extended K)}

omit [LinearOrder K] in
theorem antisymmetric_iff {r : Extended K × K × Extended K} (h : test a b = .ok r) :
    Antisymmetric test a b ↔ test b a = .ok (r.1.neg, r.2) := by
  constructor
  · intro hanti
    exact hanti r.1 r.2.1 r.2.2 h
  · intro hba t df p hab
    rw [h] at hab
    obtain rfl := Except.ok.inj hab
    exact hba

theorem directed_iff {r : Extended K × K × Extended K} (h : test a b = .ok r) :
    Directed test a b ↔ (r.1.gt 0 = true ↔ mean a < mean b) ∧
      (r.1.lt 0 = true ↔ mean b < mean a) := by
  constructor
  · intro hdir
    exact hdir r.1 r.2.1 r.2.2 h
  · intro hsign t df p hab
    rw [h] at hab
    obtain rfl := Except.ok.inj hab
    exact hsign

theorem laws_of_error (h : ∀ r, test a b ≠ .ok r) : Antisymmetric test a b ∧ Directed test a b :=
  ⟨fun _ _ _ hab => absurd hab (h _), fun _ _ _ hab => absurd hab (h _)⟩

/-- For a test of this form, the two laws hold unless the error is negligible and the means
differ. -/
theorem antisymmetric_directed_iff [IsStrictOrderedRing K] {seDiff dfDegenerate df : K}
    (hab : test a b = .ok (tTestOf num seDiff (mean b - mean a) dfDegenerate df))
    (hba : test b a = .ok (tTestOf num seDiff (mean a - mean b) dfDegenerate df)) :
    Antisymmetric test a b ∧ Directed test a b ↔ 1 / 10 ^ 12 < seDiff ∨ mean a = mean b := by
  have htol : (0 : K) < 1 / 10 ^ 12 := by positivity
  have hanti : Antisymmetric test a b ↔
      1 / 10 ^ 12 < seDiff ∨ |mean b - mean a| < 1 / 10 ^ 12 := by
    rw [antisymmetric_iff hab, hba, ← neg_sub (mean b), Except.ok.injEq]
    exact tTestOf_neg_iff num seDiff (mean b - mean a) dfDegenerate df
  have hdir : Directed test a b ↔ 1 / 10 ^ 12 < seDiff ∨ mean b - mean a = 0 ∨
      1 / 10 ^ 12 ≤ mean b - mean a := by
    have hpos : mean a < mean b ↔ 0 < mean b - mean a := sub_pos.symm
    have hneg : mean b < mean a ↔ mean b - mean a < 0 := sub_neg.symm
    rw [directed_iff hab, hpos, hneg]
    exact tTestOf_sign_iff num seDiff (mean b - mean a) dfDegenerate df
  rw [hanti, hdir]
  constructor
  · rintro ⟨hse | hsmall, hse' | hzero | hlarge⟩
    · exact .inl hse
    · exact .inl hse
    · exact .inl hse
    · exact .inl hse'
    · exact .inr (sub_eq_zero.mp hzero).symm
    · exact absurd (abs_lt.mp hsmall).2 hlarge.not_gt
  · rintro (hse | heq)
    · exact ⟨.inl hse, .inl hse⟩
    · rw [heq, sub_self, abs_zero]
      exact ⟨.inr htol, .inr (.inl rfl)⟩

end Laws

/-- `compute_cohens_d` is negated where the samples are swapped, on all its branches. -/
theorem computeCohensD_swap [IsStrictOrderedRing K] (num : Numerics K) (a b : List K) :
    computeCohensD num b a = (computeCohensD num a b).neg := by
  have hpooled : ((b.length - 1 : K) * variance b + (a.length - 1) * variance a) /
      (b.length + a.length - 2) =
        ((a.length - 1 : K) * variance a + (b.length - 1) * variance b) /
          (a.length + b.length - 2) := by
    rw [add_comm (_ * variance b), add_comm (b.length : K)]
  rw [computeCohensD, computeCohensD]
  dsimp only
  rw [hpooled, abs_sub_comm (mean a)]
  by_cases hlen : a.length < 2 ∨ b.length < 2
  · rw [if_pos hlen.symm, if_pos hlen, Extended.neg, neg_zero]
  rw [if_neg (mt Or.symm hlen), if_neg hlen]
  split
  · split
    next => rw [Extended.neg, neg_zero]
    next hdiff =>
      have hne : mean a ≠ mean b := by
        intro heq
        rw [heq, sub_self, abs_zero] at hdiff
        exact hdiff (by positivity)
      rcases lt_or_gt_of_ne hne with hlt | hgt
      · rw [if_neg hlt.not_gt, if_pos hlt, Extended.neg]
      · rw [if_pos hgt, if_neg hgt.not_gt, Extended.neg]
  · rw [Extended.neg, ← neg_div, neg_sub]

/-- **The tests are antisymmetric and have the sign of the difference** of the means where the error
is not negligible or the means are equal, and only there. -/
theorem tTests_antisymmetric_iff [IsStrictOrderedRing K] (num : Numerics K) (a b : List K) :
    (Antisymmetric (welchTTest num) a b ∧ Directed (welchTTest num) a b ↔
      (2 ≤ a.length → 2 ≤ b.length → 1 / 10 ^ 12 < welchSe num a b ∨ mean a = mean b)) ∧
    (Antisymmetric (pairedTTest num) a b ∧ Directed (pairedTTest num) a b ↔
      (a.length = b.length → 2 ≤ a.length →
        1 / 10 ^ 12 < pairedSe num a b ∨ mean a = mean b)) ∧
    computeCohensD num b a = (computeCohensD num a b).neg := by
  refine ⟨?_, ?_, computeCohensD_swap num a b⟩
  · by_cases hlen : 2 ≤ a.length ∧ 2 ≤ b.length
    · have hba : welchTTest num b a = _ := welchTTest_eq hlen.2 hlen.1
      rw [welchSe_swap, welchDf_swap, add_comm (b.length : K)] at hba
      rw [antisymmetric_directed_iff (welchTTest_eq hlen.1 hlen.2) hba]
      exact ⟨fun h _ _ => h, fun h => h hlen.1 hlen.2⟩
    · have herror : ∀ r, welchTTest num a b ≠ .ok r := fun r h =>
        hlen ((welchTTest_ok_iff a b).mp ⟨r, h⟩)
      exact iff_of_true (laws_of_error herror) fun ha hb => absurd ⟨ha, hb⟩ hlen
  · by_cases hlen : a.length = b.length ∧ 2 ≤ a.length
    · have hba : pairedTTest num b a = _ :=
        pairedTTest_eq hlen.1.symm (hlen.2.trans_eq hlen.1)
      rw [pairedSe_swap num hlen.1, ← hlen.1] at hba
      rw [antisymmetric_directed_iff (pairedTTest_eq hlen.1 hlen.2) hba]
      exact ⟨fun h _ _ => h, fun h => h hlen.1 hlen.2⟩
    · have herror : ∀ r, pairedTTest num a b ≠ .ok r := by
        intro r h
        rw [pairedTTest, pairedTTestWith] at h
        split at h
        · cases h
        · rw [if_pos (by omega)] at h
          cases h
      exact iff_of_true (laws_of_error herror) fun ha hb => absurd ⟨ha, hb⟩ hlen

/-! ### Degrees of freedom -/

/-- **The degrees of freedom of Welch's test** are those of a sample at least and those of both at
most, and the incomplete beta function gets a positive number that is at most one. -/
theorem welch_degrees [IsStrictOrderedRing K] (num : Numerics K) (ha : 2 ≤ a.length)
    (hb : 2 ≤ b.length) (h : 1 / 10 ^ 12 < welchSe num a b) :
    (variance a / a.length) ^ 2 / (a.length - 1 : K) +
      (variance b / b.length) ^ 2 / (b.length - 1 : K) ≠ 0 ∧
    min (a.length - 1 : K) (b.length - 1) ≤ welchDf a b ∧
    welchDf a b ≤ a.length + b.length - 2 ∧
    ∃ t : K, welchTTest num a b = .ok (.finite t, welchDf a b,
        num.regularizedIncompleteBeta (welchDf a b / 2) (1 / 2)
          (welchDf a b / (welchDf a b + |t| ^ 2))) ∧
      0 < welchDf a b / (welchDf a b + |t| ^ 2) ∧
      welchDf a b / (welchDf a b + |t| ^ 2) ≤ 1 := by
  have htol : (0 : K) < 1 / 10 ^ 12 := by positivity
  have hpos := squaredError_pos ha hb (htol.trans h)
  have hone := length_sub_one_pos (K := K) ha
  have hone' := length_sub_one_pos (K := K) hb
  have hse := variance_div_length_nonneg ha
  have hse' := variance_div_length_nonneg hb
  have hmin := min_le_satterthwaite hse hse' hpos hone hone'
  have hmax := satterthwaite_le hse' hpos hone hone'
  have hdf : 0 < welchDf a b := (lt_min hone hone').trans_le hmin
  have hargument : ∀ t : K, 0 < welchDf a b + |t| ^ 2 := fun t =>
    add_pos_of_pos_of_nonneg hdf (sq_nonneg |t|)
  refine ⟨(welch_divisor_pos ha hb (htol.trans h)).ne', hmin, ?_,
    (mean b - mean a) / welchSe num a b, ?_, div_pos hdf (hargument _), ?_⟩
  · calc welchDf a b ≤ a.length - 1 + (b.length - 1) := hmax
      _ = a.length + b.length - 2 := by ring
  · rw [welchTTest_eq ha hb, tTestOf, if_neg h.not_ge, computeTDistributionTwoTailedP,
      tDistributionP, if_neg hdf.not_ge]
  · rw [div_le_one (hargument _)]
    exact le_add_of_nonneg_right (sq_nonneg _)

/-! ### Instances -/

theorem mean_constant (x : ℝ) : mean [x, x] = x := by
  rw [mean, List.sum_cons, List.sum_singleton]
  norm_num

theorem variance_constant (x : ℝ) : variance [x, x] = 0 := by
  simp [variance, mean_constant]

/-- Two samples without any spread: the swapped tests return `+∞` again. -/
theorem tTests_constant_samples :
    welchTTest sampleNumerics [250, 250] [230, 230] = .ok (.infinity, 2, .finite 0) ∧
    pairedTTest sampleNumerics [250, 250] [230, 230] = .ok (.infinity, 1, .finite 0) ∧
    ¬ Antisymmetric (welchTTest sampleNumerics) [250, 250] [230, 230] ∧
    ¬ Directed (welchTTest sampleNumerics) [250, 250] [230, 230] ∧
    ¬ Antisymmetric (pairedTTest sampleNumerics) [250, 250] [230, 230] ∧
    ¬ Directed (pairedTTest sampleNumerics) [250, 250] [230, 230] := by
  have hwelch : ∀ x y : ℝ, 1 / 10 ^ 12 ≤ |y - x| →
      welchTTest sampleNumerics [x, x] [y, y] = .ok (.infinity, 2, .finite 0) := by
    intro x y hxy
    have hse : welchSe sampleNumerics [x, x] [y, y] = 0 := by
      rw [welchSe, variance_constant, variance_constant, zero_div, zero_div, add_zero,
        sampleNumerics.sqrt_zero]
    rw [welchTTest_eq (le_refl 2) (le_refl 2), hse, mean_constant, mean_constant, tTestOf,
      if_pos (by positivity), if_neg hxy.not_gt]
    norm_num
  have hpaired : ∀ x y : ℝ, 1 / 10 ^ 12 ≤ |y - x| →
      pairedTTest sampleNumerics [x, x] [y, y] = .ok (.infinity, 1, .finite 0) := by
    intro x y hxy
    have hlen : [x, x].length = [y, y].length := rfl
    have hse : pairedSe sampleNumerics [x, x] [y, y] = 0 := by
      rw [pairedSe, mean_diffs hlen, mean_constant, mean_constant]
      simp [diffs, sampleNumerics]
    rw [pairedTTest_eq hlen (le_refl 2), hse, mean_constant, mean_constant, tTestOf,
      if_pos (by positivity), if_neg hxy.not_gt]
    norm_num
  have hab : (1 : ℝ) / 10 ^ 12 ≤ |230 - 250| := by norm_num
  have hba : (1 : ℝ) / 10 ^ 12 ≤ |250 - 230| := by norm_num
  have hmean : mean [230, 230] < mean [250, (250 : ℝ)] := by
    rw [mean_constant, mean_constant]
    norm_num
  refine ⟨hwelch _ _ hab, hpaired _ _ hab, ?_, ?_, ?_, ?_⟩
  · rw [antisymmetric_iff (hwelch _ _ hab), hwelch _ _ hba]
    simp [Extended.neg]
  · rw [directed_iff (hwelch _ _ hab)]
    simp [Extended.lt, hmean]
  · rw [antisymmetric_iff (hpaired _ _ hab), hpaired _ _ hba]
    simp [Extended.neg]
  · rw [directed_iff (hpaired _ _ hab)]
    simp [Extended.lt, hmean]

theorem welchSe_unequal : 1 / 10 ^ 12 < welchSe sampleNumerics [1, 3] [2, 2] := by
  rw [welchSe, variance_constant, zero_div, add_zero]
  apply (lt_of_lt_of_le (b := 1) (by norm_num))
  rw [sampleNumerics, Real.one_le_sqrt]
  norm_num [variance, mean]

theorem tTests_antisymmetric_unequal :
    Antisymmetric (welchTTest sampleNumerics) [1, 3] [2, 2] ∧
      Directed (welchTTest sampleNumerics) [1, 3] [2, 2] :=
  (tTests_antisymmetric_iff sampleNumerics [1, 3] [2, 2]).1.mpr fun _ _ => .inl welchSe_unequal

theorem welch_degrees_unequal :
    1 ≤ welchDf [1, 3] [2, (2 : ℝ)] ∧ welchDf [1, 3] [2, (2 : ℝ)] ≤ 2 := by
  obtain ⟨-, hmin, hmax, -⟩ :=
    welch_degrees sampleNumerics (le_refl 2) (le_refl 2) welchSe_unequal
  norm_num at hmin hmax
  exact ⟨hmin, hmax⟩

end ValOpt
