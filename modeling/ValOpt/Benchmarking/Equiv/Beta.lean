import Mathlib.Analysis.SpecialFunctions.Log.Basic
import Mathlib.Analysis.SpecialFunctions.Trigonometric.Basic
import ValOpt.Benchmarking.Beta
import ValOpt.Benchmarking.Equiv.Comparison

/-!
# The calls of the incomplete beta function

`regularized_incomplete_beta` calls itself with `a` and `b` swapped and `x` reflected where `x`
exceeds a threshold.  The two thresholds add up to one (`threshold_swap`), so the call that is made
is below its own, and makes none (`reflects_swap`).  A stack for two calls is enough
(`regularizedIncompleteBeta_returns`), and with it every p-value is what the tests of `Stats` make
of the function (`incompleteBeta_terminates`).
-/

namespace ValOpt

variable {K : Type} [Field K] [LinearOrder K]

/-! ### The threshold -/

/-- Above this value of `x` the function calls itself. -/
def betaThreshold (a b : K) : K := (a + 1) / (a + b + 2)

/-- The branch in which the function calls itself. -/
def Reflects (a b x : K) : Prop := 0 < x ∧ x < 1 ∧ betaThreshold a b < x

section Calls

variable {a b x : K} {el : Elementary K}

theorem stack_reflect (h : Reflects a b x) (depth : ℕ) :
    Stack.regularizedIncompleteBeta el (depth + 1) a b x =
      (Stack.regularizedIncompleteBeta el depth b a (1 - x)).map (1 - ·) := by
  obtain ⟨hpos, hlt, habove⟩ := h
  rw [betaThreshold] at habove
  rw [Stack.regularizedIncompleteBeta, if_neg hpos.not_ge, if_neg hlt.not_ge, if_pos habove,
    Option.map_eq_bind]
  rfl

/-- A call that does not call itself returns. -/
theorem stack_isSome_of_not_reflects (h : ¬ Reflects a b x) (depth : ℕ) :
    (Stack.regularizedIncompleteBeta el (depth + 1) a b x).isSome := by
  rw [Stack.regularizedIncompleteBeta]
  split_ifs with hzero hone habove
  · rfl
  · rfl
  · exact absurd ⟨not_le.mp hzero, not_le.mp hone, habove⟩ h
  · rfl

variable [IsStrictOrderedRing K]

/-- The thresholds of a call and of the call that it makes add up to one. -/
theorem threshold_swap (ha : 0 < a) (hb : 0 < b) :
    betaThreshold a b + betaThreshold b a = 1 := by
  have hne : a + b + 2 ≠ 0 := by positivity
  rw [betaThreshold, betaThreshold, add_comm b a, ← add_div, div_eq_one_iff_eq hne]
  ring

/-- The call that is made does not take the branch again. -/
theorem reflects_swap (ha : 0 < a) (hb : 0 < b) (h : Reflects a b x) : ¬ Reflects b a (1 - x) := by
  rintro ⟨-, -, hagain⟩
  have habove := h.2.2
  have hsum := threshold_swap ha hb
  linarith

/-- There is at most one call of the function by itself. -/
theorem regularizedIncompleteBeta_returns (el : Elementary K) (ha : 0 < a) (hb : 0 < b) (x : K) :
    (Stack.regularizedIncompleteBeta el 2 a b x).isSome := by
  by_cases h : Reflects a b x
  · rw [stack_reflect h, Option.isSome_map]
    exact stack_isSome_of_not_reflects (reflects_swap ha hb h) 0
  · exact stack_isSome_of_not_reflects h 1

/-- The parameters of the p-values are positive. -/
theorem computeTDistributionTwoTailedP_returns (el : Elementary K) (t df : K) :
    (Stack.computeTDistributionTwoTailedP el 2 t df).isSome := by
  rw [Stack.computeTDistributionTwoTailedP, tDistributionP]
  split_ifs with hdf
  · rfl
  · rw [Option.isSome_map]
    exact regularizedIncompleteBeta_returns el (half_pos (not_le.mp hdf)) (by norm_num) _

end Calls

/-! ### The tests -/

section Tests

variable [IsStrictOrderedRing K] (num : Numerics K) (el : Elementary K)

omit [IsStrictOrderedRing K] in
theorem withBeta_sqrt : (num.withBeta el).sqrt = num.sqrt := rfl

/-- Two calls are enough for the p-value of a statistic. -/
theorem stack_pValue : Stack.computeTDistributionTwoTailedP el 2 = fun t df =>
    some (computeTDistributionTwoTailedP (num.withBeta el) t df) := by
  funext t df
  have hreturns := computeTDistributionTwoTailedP_returns el t df
  rw [Stack.computeTDistributionTwoTailedP, tDistributionP] at hreturns ⊢
  rw [computeTDistributionTwoTailedP, tDistributionP]
  split_ifs at hreturns ⊢ with hdf
  · rfl
  · obtain ⟨p, hp⟩ := Option.isSome_iff_exists.mp (Option.isSome_map.symm.trans hreturns)
    rw [hp, Numerics.withBeta]
    dsimp only
    rw [hp]
    rfl

theorem stack_welchTTest (a b : List K) :
    Stack.welchTTest num el 2 a b = some (welchTTest (num.withBeta el) a b) := by
  rw [Stack.welchTTest, stack_pValue num, welchTTest, welchTTestWith, welchTTestWith]
  dsimp only
  rw [withBeta_sqrt]
  split
  · rfl
  split
  · split <;> rfl
  · rfl

theorem stack_pairedTTest (a b : List K) :
    Stack.pairedTTest num el 2 a b = some (pairedTTest (num.withBeta el) a b) := by
  rw [Stack.pairedTTest, stack_pValue num, pairedTTest, pairedTTestWith, pairedTTestWith]
  dsimp only
  rw [withBeta_sqrt]
  split
  · rfl
  split
  · rfl
  split
  · split <;> rfl
  · rfl

theorem stack_leveneVarianceTest [FloorSemiring K] (a b : List K) :
    Stack.leveneVarianceTest num el 2 a b = some (leveneVarianceTest (num.withBeta el) a b) := by
  rw [Stack.leveneVarianceTest, stack_pValue num, leveneVarianceTest, leveneVarianceTestWith,
    leveneVarianceTestWith]
  dsimp only
  rw [withBeta_sqrt]
  split
  · rfl
  split <;> rfl

end Tests

/-- **The function calls itself at most once**, so every p-value of the tests is computed. -/
theorem incompleteBeta_terminates [IsStrictOrderedRing K] [FloorSemiring K] (num : Numerics K)
    (el : Elementary K) :
    (∀ a b x : K, 0 < a → 0 < b → (Reflects a b x → ¬ Reflects b a (1 - x)) ∧
      (Stack.regularizedIncompleteBeta el 2 a b x).isSome) ∧
    (∀ t df : K, (Stack.computeTDistributionTwoTailedP el 2 t df).isSome) ∧
    ∀ sampleA sampleB : List K,
      Stack.welchTTest num el 2 sampleA sampleB =
        some (welchTTest (num.withBeta el) sampleA sampleB) ∧
      Stack.pairedTTest num el 2 sampleA sampleB =
        some (pairedTTest (num.withBeta el) sampleA sampleB) ∧
      Stack.leveneVarianceTest num el 2 sampleA sampleB =
        some (leveneVarianceTest (num.withBeta el) sampleA sampleB) := by
  refine ⟨?_, computeTDistributionTwoTailedP_returns el, ?_⟩
  · intro a b x ha hb
    exact ⟨reflects_swap ha hb, regularizedIncompleteBeta_returns el ha hb x⟩
  · intro sampleA sampleB
    exact ⟨stack_welchTTest num el sampleA sampleB, stack_pairedTTest num el sampleA sampleB,
      stack_leveneVarianceTest num el sampleA sampleB⟩

noncomputable def realElementary : Elementary ℝ := ⟨Real.exp, Real.log, Real.pi⟩

/-- A p-value above the threshold: the function calls itself. -/
theorem incompleteBeta_terminates_real : Reflects (3 / 2 : ℝ) (1 / 2) (3 / 4) ∧
    (Stack.regularizedIncompleteBeta realElementary 2 (3 / 2) (1 / 2) (3 / 4)).isSome := by
  have hterminates := (incompleteBeta_terminates sampleNumerics realElementary).1
  refine ⟨⟨by norm_num, by norm_num, ?_⟩, (hterminates _ _ _ (by norm_num) (by norm_num)).2⟩
  rw [betaThreshold]
  norm_num

end ValOpt
