import ValOpt.Benchmarking.Equiv.Comparison
import ValOpt.Statistics.Ranks

/-!
# The Mann-Whitney test

`mannWhitneyUTest` ranks the values with a loop over the groups of ties in the sorted list.  What
the loop makes depends on the sizes of the groups only (`midRanks_eq`).

* Where values that are not equal are too far apart to be tied, the ranks are the mid-ranks
  (`ranksFrom_tieGroups`), and the statistic is a count over pairs (`mannWhitneyUTest_eq_pairs`).
* The groups partition the values (`tieGroups_sum`), so the corrected variance is zero for a single
  group, and otherwise at least a quarter of the product of the sizes (`le_varU_of_groups`).
-/

namespace ValOpt

open Statistics

variable {K : Type} [Field K] [LinearOrder K]

/-! ### The groups of ties -/

/-- The sizes of the groups of ties, in a list that starts with the first of a group. -/
def tieGroups : List K → List ℕ
  | [] => []
  | x :: rest =>
    (1 + (rest.takeWhile fun y => |y - x| < 1 / 10 ^ 12).length) ::
      tieGroups (rest.dropWhile fun y => |y - x| < 1 / 10 ^ 12)
  termination_by values => values.length
  decreasing_by exact Nat.lt_succ_of_le (List.length_dropWhile_le _ rest)

/-- The ranks of groups of these sizes, from an index on. -/
def ranksFrom (i : ℕ) : List ℕ → List K
  | [] => []
  | t :: groups =>
    List.replicate t ((i + 1 + (i + t) : ℕ) / 2 : K) ++ ranksFrom (i + t) groups

/-- The correction for groups of these sizes. -/
def tieSum (K : Type) [Field K] (nTotal : ℕ) (groups : List ℕ) : K :=
  (groups.map fun t : ℕ => tieTerm (t : K)).sum / (nTotal * (nTotal - 1))

/-- The groups partition the values. -/
theorem tieGroups_sum (values : List K) : (tieGroups values).sum = values.length := by
  induction values using tieGroups.induct with
  | case1 => rw [tieGroups, List.sum_nil, List.length_nil]
  | case2 x rest ih =>
    have hsplit := congrArg List.length
      (List.takeWhile_append_dropWhile (p := fun y => |y - x| < 1 / 10 ^ 12) (l := rest))
    rw [List.length_append] at hsplit
    rw [tieGroups, List.sum_cons, ih, List.length_cons]
    omega

theorem tieGroups_pos (values : List K) : ∀ t ∈ tieGroups values, 0 < t := by
  induction values using tieGroups.induct with
  | case1 => simp [tieGroups]
  | case2 x rest ih =>
    rw [tieGroups, List.forall_mem_cons]
    exact ⟨by omega, ih⟩

section Loop

variable [IsStrictOrderedRing K]

/-- The loop depends on the sizes of the groups only. -/
theorem midRanks_eq (nTotal i : ℕ) (combined : List (K × Fin 2)) :
    midRanks nTotal i combined =
      (ranksFrom i (tieGroups (combined.map Prod.fst)),
        tieSum K nTotal (tieGroups (combined.map Prod.fst))) := by
  induction i, combined using midRanks.induct (K := K) nTotal with
  | case1 i => simp [midRanks, tieGroups, ranksFrom, tieSum]
  | case2 i x rest tied j ranks rest' heq ih =>
    -- a group of one has no correction either way
    have hterm : ∀ t : ℕ, 0 < t → (if (1 : K) < t then
        ((t : K) ^ 3 - t) / (nTotal * (nTotal - 1)) else 0) =
          tieTerm (t : K) / (nTotal * (nTotal - 1)) := by
      intro t ht
      split
      next => rfl
      next h =>
        have hone : t = 1 := by
          rw [Nat.one_lt_cast] at h
          omega
        simp [hone, tieTerm]
    have hlen : j - i = 1 + tied.length := by omega
    have hj : j = i + (1 + tied.length) := by omega
    have htied : ((rest.map Prod.fst).takeWhile fun y => |y - x.1| < 1 / 10 ^ 12).length =
        tied.length := by
      rw [List.takeWhile_map, List.length_map]
      rfl
    have hdrop : ((rest.map Prod.fst).dropWhile fun y => |y - x.1| < 1 / 10 ^ 12) =
        (rest.dropWhile fun y => |y.1 - x.1| < 1 / 10 ^ 12).map Prod.fst := by
      rw [List.dropWhile_map]
      rfl
    rw [midRanks, List.map_cons, tieGroups, htied, hdrop]
    dsimp only
    rw [ih, hlen, hterm _ (by omega), ranksFrom, ← hj, tieSum, tieSum, List.map_cons,
      List.sum_cons, add_div]

/-! ### The ranks -/

/-- Where values are equal or too far apart to be tied, the ranks are the mid-ranks. -/
theorem ranksFrom_tieGroups (i : ℕ) {values : List K} (hs : values.Pairwise (· ≤ ·))
    (hsep : ∀ x ∈ values, ∀ y ∈ values, x = y ∨ 1 / 10 ^ 12 ≤ |x - y|) :
    ranksFrom i (tieGroups values) = values.map fun x => i + midRank K values x := by
  induction values using tieGroups.induct generalizing i with
  | case1 => rw [tieGroups]; rfl
  | case2 x rest ih =>
    have htied : ∀ y ∈ rest, decide (|y - x| < 1 / 10 ^ 12) = true ↔ y = x := by
      intro y hy
      rw [decide_eq_true_eq]
      constructor
      · intro hlt
        rcases hsep y (List.mem_cons_of_mem x hy) x List.mem_cons_self with heq | hle
        · exact heq
        · exact absurd hlt (not_lt.mpr hle)
      · rintro rfl
        rw [sub_self, abs_zero]
        positivity
    -- the scan takes the copies of `x`, and all that is left is greater
    have hcopies := takeWhile_eq_replicate htied
    have habove := lt_of_mem_dropWhile hs htied
    have hrest := List.takeWhile_append_dropWhile (p := fun y => |y - x| < 1 / 10 ^ 12) (l := rest)
    have hsub := List.dropWhile_sublist (fun y => |y - x| < 1 / 10 ^ 12) (l := rest)
    have hmem : ∀ y ∈ rest.dropWhile fun y => |y - x| < 1 / 10 ^ 12, y ∈ x :: rest := fun y hy =>
      List.mem_cons_of_mem x (hsub.subset hy)
    have hranks : ∀ i, ranksFrom i (tieGroups (rest.dropWhile fun y => |y - x| < 1 / 10 ^ 12)) =
        (rest.dropWhile fun y => |y - x| < 1 / 10 ^ 12).map fun y =>
          i + midRank K (rest.dropWhile fun y => |y - x| < 1 / 10 ^ 12) y := fun i =>
      ih i (hs.of_cons.sublist hsub) fun y hy z hz => hsep y (hmem y hy) z (hmem z hz)
    rw [tieGroups, ranksFrom, hranks]
    generalize (rest.dropWhile fun y => |y - x| < 1 / 10 ^ 12) = above at *
    generalize (rest.takeWhile fun y => |y - x| < 1 / 10 ^ 12) = tied at *
    have hvalues : x :: rest = List.replicate (1 + tied.length) x ++ above := by
      rw [Nat.add_comm, List.replicate_succ, List.cons_append, ← hcopies, hrest]
    generalize tied.length = n at *
    rw [hvalues, List.map_append, List.map_replicate, midRank_replicate_append_self _ habove]
    congr 1
    · congr 1
      push_cast
      ring
    · apply List.map_congr_left
      intro y hy
      rw [midRank_replicate_append _ _ (habove y hy)]
      push_cast
      ring

end Loop

/-! ### The statistic -/

/-- `combined`: the values of the samples in order, each with the sample that it is from. -/
def combined (sampleA sampleB : List K) : List (K × Fin 2) :=
  (sampleA.map (·, (0 : Fin 2)) ++ sampleB.map (·, 1)).mergeSort (·.1 ≤ ·.1)

/-- `rank_sum_a`. -/
def rankSumA (sampleA sampleB : List K) : K :=
  (List.zipWith (fun x rank => if x.2 = 0 then rank else 0) (combined sampleA sampleB)
    (midRanks (sampleA.length + sampleB.length) 0 (combined sampleA sampleB)).1).sum

/-- `var_u`. -/
def varU (sampleA sampleB : List K) : K :=
  (sampleA.length : K) * sampleB.length / 12 *
    ((sampleA.length + sampleB.length : ℕ) + 1 -
      (midRanks (sampleA.length + sampleB.length) 0 (combined sampleA sampleB)).2)

/-- The p-value of a statistic by the normal approximation. -/
def approximateP (num : Numerics K) (muU varU u : K) : K :=
  let sigmaU := num.sqrt varU
  let z :=
    if u < muU then (u - muU + 1 / 2) / sigmaU
    else if muU < u then (u - muU - 1 / 2) / sigmaU
    else 0
  max 0 (min (2 * (1 - num.standardNormalCdf |z|)) 1)

/-- The statistic of one part of the pairs, and its p-value. -/
def statisticOf (num : Numerics K) (pairs varU u1 : K) : K × K :=
  let u := min u1 (pairs - u1)
  (u, if varU ≤ 1 / 10 ^ 12 then if |u - pairs / 2| < 1 / 10 ^ 12 then 1 else 0
    else approximateP num (pairs / 2) varU u)

section Statistic

variable {num : Numerics K} {a b : List K}

/-- The test returns what `rankSumA` and `varU` determine. -/
theorem mannWhitneyUTest_eq (ha : 2 ≤ a.length) (hb : 2 ≤ b.length) :
    mannWhitneyUTest num a b =
      .ok (statisticOf num ((a.length : K) * b.length) (varU a b)
        ((a.length : K) * b.length + a.length * (a.length + 1) / 2 - rankSumA a b)) := by
  rw [mannWhitneyUTest, if_neg (by omega), statisticOf]
  dsimp only
  rw [← combined, ← rankSumA, ← varU]
  split <;> rfl

/-- The values in order, whatever the samples they are from. -/
abbrev sortedValues (a b : List K) : List K := (a ++ b).mergeSort (· ≤ ·)

omit [Field K] in
theorem sortedValues_of_sorted {a b : List K} (h : (a ++ b).Pairwise (· ≤ ·)) :
    sortedValues a b = a ++ b :=
  List.mergeSort_of_pairwise (h.imp decide_eq_true)

omit [Field K] in
theorem combined_fst (a b : List K) : (combined a b).map Prod.fst = sortedValues a b := by
  have hperm : ((combined a b).map Prod.fst).Perm (sortedValues a b) := by
    apply ((List.mergeSort_perm _ _).map Prod.fst).trans
    rw [List.map_append, List.map_map, List.map_map]
    apply List.Perm.trans _ (List.mergeSort_perm _ _).symm
    simp [Function.comp_def]
  have hsorted : (combined a b).Pairwise fun x y => x.1 ≤ y.1 := by
    have hle : (combined a b).Pairwise fun x y => decide (x.1 ≤ y.1) = true :=
      List.pairwise_mergeSort (fun x y z => by simpa using le_trans)
        (fun x y => by simpa using le_total x.1 y.1) _
    exact hle.imp fun h => by simpa using h
  apply hperm.eq_of_sortedLE _ List.sortedLE_mergeSort
  exact (List.pairwise_map.mpr hsorted).sortedLE

variable [IsStrictOrderedRing K]

theorem varU_eq (a b : List K) : varU a b = (a.length : K) * b.length / 12 *
    ((a.length + b.length : ℕ) + 1 -
      tieSum K (a.length + b.length) (tieGroups (sortedValues a b))) := by
  rw [varU, midRanks_eq, combined_fst]

/-- Where the rank is a function of the value, the sum is over the values of the sample. -/
theorem rankSumA_eq {rank : K → K}
    (h : ranksFrom 0 (tieGroups (sortedValues a b)) = (sortedValues a b).map rank) :
    rankSumA a b = (a.map rank).sum := by
  have hperm : (combined a b).Perm (a.map (·, (0 : Fin 2)) ++ b.map (·, 1)) :=
    List.mergeSort_perm _ _
  -- each value is next to its rank, and a sum does not depend on the order
  rw [rankSumA, midRanks_eq, combined_fst, h, ← combined_fst, List.map_map, List.zipWith_map_right,
    List.zipWith_self, (hperm.map _).sum_eq, List.map_append, List.sum_append, List.map_map,
    List.map_map]
  simp [Function.comp_def]

/-! ### A count of pairs -/

/-- Values that are not equal are too far apart to be tied. -/
def Separated (values : List K) : Prop :=
  ∀ x ∈ values, ∀ y ∈ values, x = y ∨ 1 / 10 ^ 12 ≤ |x - y|

omit [IsStrictOrderedRing K] in
theorem Separated.perm {values values' : List K} (h : Separated values)
    (hperm : values'.Perm values) : Separated values' := fun x hx y hy =>
  h x (hperm.mem_iff.mp hx) y (hperm.mem_iff.mp hy)

/-- The statistic is made of the pairs whose second value is the greater one. -/
theorem mannWhitneyUTest_eq_pairs (ha : 2 ≤ a.length) (hb : 2 ≤ b.length)
    (hsep : Separated (a ++ b)) : mannWhitneyUTest num a b =
      .ok (statisticOf num ((a.length : K) * b.length) (varU a b) (pairsAbove K a b)) := by
  have hranks := ranksFrom_tieGroups 0 List.sortedLE_mergeSort.pairwise
    (hsep.perm (List.mergeSort_perm _ _))
  have hrank : ∀ x, ((0 : ℕ) : K) + midRank K (sortedValues a b) x = midRank K (a ++ b) x := by
    intro x
    rw [Nat.cast_zero, zero_add, midRank_perm (List.mergeSort_perm _ _)]
  have hsum : rankSumA a b = (a.length : K) * (a.length + 1) / 2 + pairsAbove K b a := by
    rw [rankSumA_eq hranks, ← sum_midRank]
    simp only [hrank]
  have hall := pairsAbove_add_swap (K := K) a b
  rw [mannWhitneyUTest_eq ha hb, hsum, ← hall]
  congr 3
  ring

omit [IsStrictOrderedRing K] in
/-- Which part of the pairs is counted makes no difference. -/
theorem statisticOf_sub (pairs varU u1 : K) :
    statisticOf num pairs varU (pairs - u1) = statisticOf num pairs varU u1 := by
  have hmin : min (pairs - u1) (pairs - (pairs - u1)) = min u1 (pairs - u1) := by
    rw [sub_sub_cancel, min_comm]
  rw [statisticOf, statisticOf, hmin]

/-- The branch without a variance returns one for the middle statistic. -/
theorem statisticOf_eq {pairs varU u1 : K} (hzero : varU = 0 → u1 = pairs / 2)
    (hpos : varU ≠ 0 → 1 / 10 ^ 12 < varU) : statisticOf num pairs varU u1 =
      (min u1 (pairs - u1), if varU = 0 then 1
        else approximateP num (pairs / 2) varU (min u1 (pairs - u1))) := by
  rw [statisticOf]
  by_cases h : varU = 0
  · have hhalf : pairs - pairs / 2 = pairs / 2 := by ring
    rw [h, hzero h, hhalf, min_self, sub_self, abs_zero, if_pos (by positivity),
      if_pos (by positivity), if_pos rfl]
  · rw [if_neg (hpos h).not_ge, if_neg h]

theorem varU_perm {a' b' : List K} (ha : a'.Perm a) (hb : b'.Perm b) :
    varU a' b' = varU a b := by
  have hvalues : sortedValues a' b' = sortedValues a b := mergeSort_eq_of_perm (ha.append hb)
  rw [varU_eq, varU_eq, hvalues, ha.length_eq, hb.length_eq]

theorem varU_swap (a b : List K) : varU b a = varU a b := by
  have hvalues : sortedValues b a = sortedValues a b := mergeSort_eq_of_perm List.perm_append_comm
  rw [varU_eq, varU_eq, hvalues, mul_comm (b.length : K), Nat.add_comm b.length]

/-- **The statistic is a count of pairs**, and neither the order of the samples nor the order in
them makes a difference. -/
theorem mannWhitney_pairs (num : Numerics K) (ha : 2 ≤ a.length) (hb : 2 ≤ b.length)
    (hsep : Separated (a ++ b)) :
    (∃ p, mannWhitneyUTest num a b =
      .ok (min (pairsAbove K a b) ((a.length : K) * b.length - pairsAbove K a b), p)) ∧
    mannWhitneyUTest num b a = mannWhitneyUTest num a b ∧
    ∀ a' b', a'.Perm a → b'.Perm b → mannWhitneyUTest num a' b' = mannWhitneyUTest num a b := by
  have hmain : mannWhitneyUTest num a b = _ := mannWhitneyUTest_eq_pairs ha hb hsep
  refine ⟨⟨_, hmain⟩, ?_, ?_⟩
  · have hall := pairsAbove_add_swap (K := K) a b
    have hrest : pairsAbove K b a = (a.length : K) * b.length - pairsAbove K a b := by
      rw [← hall]
      ring
    rw [hmain, mannWhitneyUTest_eq_pairs hb ha (hsep.perm List.perm_append_comm), varU_swap,
      mul_comm (b.length : K), hrest, statisticOf_sub]
  · intro a' b' hperm hperm'
    have ha' := ha.trans_eq hperm.length_eq.symm
    have hb' := hb.trans_eq hperm'.length_eq.symm
    rw [hmain, mannWhitneyUTest_eq_pairs ha' hb' (hsep.perm (hperm.append hperm')),
      varU_perm hperm hperm', hperm.length_eq, hperm'.length_eq, pairsAbove_perm hperm hperm']

/-! ### The variance -/

omit [IsStrictOrderedRing K] in
theorem sum_tieGroups (a b : List K) :
    (tieGroups (sortedValues a b)).sum = a.length + b.length := by
  rw [tieGroups_sum, List.length_mergeSort, List.length_append]

omit [IsStrictOrderedRing K] in
/-- There is a single group of all values, or there are more. -/
theorem tieGroups_cases (ha : 2 ≤ a.length) :
    tieGroups (sortedValues a b) = [a.length + b.length] ∨
      2 ≤ (tieGroups (sortedValues a b)).length := by
  have hsum := sum_tieGroups a b
  match hcase : tieGroups (sortedValues a b) with
  | [] =>
    rw [hcase, List.sum_nil] at hsum
    omega
  | [t] =>
    rw [hcase, List.sum_singleton] at hsum
    exact .inl (by rw [hsum])
  | _ :: _ :: _ => exact .inr (by simp)

/-- A single group leaves no variance. -/
theorem varU_of_one_group (hlen : 2 ≤ a.length)
    (h : tieGroups (sortedValues a b) = [a.length + b.length]) : varU a b = 0 := by
  have hn : (2 : K) ≤ a.length := by exact_mod_cast hlen
  have hm : (0 : K) ≤ b.length := Nat.cast_nonneg _
  have hN : ((a.length + b.length : ℕ) : K) * ((a.length + b.length : ℕ) - 1) ≠ 0 := by
    push_cast
    apply mul_ne_zero <;> linarith
  rw [varU_eq, h, tieSum, List.map_singleton, List.sum_singleton, tieTerm_eq,
    mul_div_cancel_right₀ _ hN, sub_self, mul_zero]

/-- More than one group leaves a quarter of the number of pairs, or more. -/
theorem le_varU_of_groups (hlen : 2 ≤ a.length)
    (h : 2 ≤ (tieGroups (sortedValues a b)).length) :
    (a.length : K) * b.length / 4 ≤ varU a b := by
  have hn : (2 : K) ≤ a.length := by exact_mod_cast hlen
  have hm : (0 : K) ≤ b.length := Nat.cast_nonneg _
  have hle := tieSum_add_le (K := K) (tieGroups_pos _) h
  have hN : (0 : K) < (a.length + b.length : ℕ) * ((a.length + b.length : ℕ) - 1) := by
    push_cast
    apply mul_pos <;> linarith
  rw [sum_tieGroups, tieTerm_eq] at hle
  -- the groups fall short by `3 * N * (N - 1)`, so the correction is `N - 2` at most
  have hquot : tieSum K (a.length + b.length) (tieGroups (sortedValues a b)) ≤
      (a.length + b.length : ℕ) + 1 - 3 := by
    rw [tieSum, div_le_iff₀ hN]
    linarith
  have hpairs : (0 : K) ≤ a.length * b.length / 12 := by positivity
  rw [varU_eq]
  calc (a.length : K) * b.length / 4 = a.length * b.length / 12 * 3 := by ring
    _ ≤ _ := mul_le_mul_of_nonneg_left (by linarith) hpairs

/-- In a single group all have the rank in the middle, and half of the pairs count. -/
theorem rankSumA_of_one_group (h : tieGroups (sortedValues a b) = [a.length + b.length]) :
    (a.length : K) * b.length + a.length * (a.length + 1) / 2 - rankSumA a b =
      (a.length : K) * b.length / 2 := by
  have hranks : ranksFrom 0 (tieGroups (sortedValues a b)) =
      (sortedValues a b).map fun _ => ((0 + 1 + (0 + (a.length + b.length)) : ℕ) / 2 : K) := by
    rw [h, ranksFrom, ranksFrom, List.append_nil, List.map_const', List.length_mergeSort,
      List.length_append]
  rw [rankSumA_eq hranks, List.map_const', List.sum_replicate, nsmul_eq_mul]
  push_cast
  ring

/-- **The variance is zero for a single group of ties only**, and then the p-value is one. -/
theorem mannWhitney_variance (num : Numerics K) (ha : 2 ≤ a.length) (hb : 2 ≤ b.length) :
    0 ≤ varU a b ∧
    (varU a b = 0 ↔ (tieGroups ((combined a b).map Prod.fst)).length = 1) ∧
    (varU a b ≠ 0 → 1 / 10 ^ 12 < varU a b) ∧
    ∃ u, mannWhitneyUTest num a b = .ok (u, if varU a b = 0 then 1
      else approximateP num ((a.length : K) * b.length / 2) (varU a b) u) := by
  rw [combined_fst]
  have hresult (hzero : varU a b = 0 →
      tieGroups (sortedValues a b) = [a.length + b.length])
      (hpos : varU a b ≠ 0 → 1 / 10 ^ 12 < varU a b) : mannWhitneyUTest num a b = _ :=
    (mannWhitneyUTest_eq ha hb).trans
      (congrArg Except.ok (statisticOf_eq (fun h => rankSumA_of_one_group (hzero h)) hpos))
  rcases tieGroups_cases (b := b) ha with hone | hmany
  · have hzero := varU_of_one_group ha hone
    have hpos : varU a b ≠ 0 → 1 / 10 ^ 12 < varU a b := fun h => absurd hzero h
    exact ⟨hzero.ge, iff_of_true hzero (by rw [hone]; rfl), hpos, _, hresult (fun _ => hone) hpos⟩
  · have hle := le_varU_of_groups ha hmany
    have hn : (2 : K) ≤ a.length := by exact_mod_cast ha
    have hm : (2 : K) ≤ b.length := by exact_mod_cast hb
    have hpairs : (2 : K) * 2 ≤ a.length * b.length :=
      mul_le_mul hn hm (by norm_num) (by linarith)
    have hsmall : (1 : K) / 10 ^ 12 < 1 := by norm_num
    have hlarge : 1 / 10 ^ 12 < varU a b := by linarith
    have hne : varU a b ≠ 0 := by linarith
    exact ⟨by linarith, iff_of_false hne (by omega), fun _ => hlarge, _,
      hresult (fun h => absurd h hne) fun _ => hlarge⟩

end Statistic

/-! ### Instances -/

theorem mannWhitney_pairs_ties : ∃ p,
    mannWhitneyUTest sampleNumerics [1, 2, 3] [2, 3] = .ok (2, p) ∧
      mannWhitneyUTest sampleNumerics [2, 3] [1, 2, 3] = .ok (2, p) := by
  have hsep : Separated ([1, 2, 3] ++ [2, 3] : List ℝ) := by
    norm_num [Separated, abs_of_pos, abs_of_neg]
  have hpairs : pairsAbove ℝ [1, 2, 3] [2, (3 : ℝ)] = 4 := by
    norm_num [pairsAbove, List.product_cons, List.countP_cons]
  obtain ⟨⟨p, hp⟩, hswap, -⟩ :=
    mannWhitney_pairs sampleNumerics (a := [1, 2, 3]) (b := [2, 3]) (by decide) (le_refl 2) hsep
  have hmin : min (4 : ℝ) (([1, 2, 3] : List ℝ).length * ([2, 3] : List ℝ).length - 4) = 2 := by
    norm_num
  rw [hpairs, hmin] at hp
  exact ⟨p, hp, hswap.trans hp⟩

/-- Two of the four values differ.  If all are equal, the variance is zero and the p-value one. -/
theorem mannWhitney_variance_ties :
    (1 / 10 ^ 12 < varU [1, 1] [1, (2 : ℝ)] ∧
      ∃ u, mannWhitneyUTest sampleNumerics [1, 1] [1, 2] =
        .ok (u, approximateP sampleNumerics 2 (varU [1, 1] [1, 2]) u)) ∧
    varU [1, 1] [1, (1 : ℝ)] = 0 ∧
      ∃ u, mannWhitneyUTest sampleNumerics [1, 1] [1, 1] = .ok (u, 1) := by
  have htwo : (tieGroups ((combined [1, 1] [1, (2 : ℝ)]).map Prod.fst)).length = 2 := by
    rw [combined_fst, sortedValues_of_sorted (by norm_num)]
    norm_num [tieGroups]
  have hone : (tieGroups ((combined [1, 1] [1, (1 : ℝ)]).map Prod.fst)).length = 1 := by
    rw [combined_fst, sortedValues_of_sorted (by norm_num)]
    norm_num [tieGroups]
  constructor
  · obtain ⟨-, hzero, hlarge, u, hresult⟩ := mannWhitney_variance sampleNumerics
      (a := [1, 1]) (b := [1, (2 : ℝ)]) (le_refl 2) (le_refl 2)
    have hne : varU [1, 1] [1, (2 : ℝ)] ≠ 0 := by
      rw [ne_eq, hzero, htwo]
      decide
    have hmean : (([1, 1] : List ℝ).length : ℝ) * ([1, 2] : List ℝ).length / 2 = 2 := by
      norm_num
    rw [if_neg hne, hmean] at hresult
    exact ⟨hlarge hne, u, hresult⟩
  · obtain ⟨-, hzero, -, u, hresult⟩ := mannWhitney_variance sampleNumerics
      (a := [1, 1]) (b := [1, (1 : ℝ)]) (le_refl 2) (le_refl 2)
    have hvar : varU [1, 1] [1, (1 : ℝ)] = 0 := hzero.mpr hone
    rw [if_pos hvar] at hresult
    exact ⟨hvar, u, hresult⟩

end ValOpt
