import ValOpt.Benchmarking.Equiv.MannWhitney
import ValOpt.Benchmarking.Equiv.TieLoop

/-!
# Numbers among the values of `f64`

For samples of numbers, whatever sort is used, the Mann-Whitney test on the values of `f64` returns
what the test on exact numbers does (`mannWhitneyUTest_finite`).
-/

namespace ValOpt

open Extended Loop

namespace F64

variable {K : Type} [Field K] [LinearOrder K]

/-! ### Sorting numbers -/

omit [Field K] in
theorem compareOrEqual_finite (x y : K) : compareOrEqual (finite x) (finite y) = compare x y := by
  have hless : compareOrEqual (finite x) (finite y) =
      if x < y then .lt else if y < x then .gt else .eq := by
    simp [compareOrEqual, partialCmp, less]
  rw [hless, LinearOrder.compare_eq_compareOfLessAndEq, compareOfLessAndEq]
  rcases lt_trichotomy x y with h | h | h
  · rw [if_pos h, if_pos h]
  · rw [if_neg h.not_lt, if_neg h.not_gt, if_neg h.not_lt, if_pos h]
  · rw [if_neg h.not_gt, if_pos h, if_neg h.not_gt, if_neg h.ne']

omit [Field K] in
/-- Numbers are in a total order, with what is sorted along with them. -/
theorem totalOn_finite {α : Type} {value : α → Extended K} {xs : List α}
    (h : ∀ a ∈ xs, ∃ x, value a = finite x) :
    TotalOn (fun a b => compareOrEqual (value a) (value b)) xs where
  swap a ha b hb := by
    obtain ⟨x, hx⟩ := h a ha
    obtain ⟨y, hy⟩ := h b hb
    rw [hx, hy, compareOrEqual_finite, compareOrEqual_finite]
    exact Std.OrientedCmp.eq_swap
  trans a ha b hb c hc hab hbc := by
    obtain ⟨x, hx⟩ := h a ha
    obtain ⟨y, hy⟩ := h b hb
    obtain ⟨z, hz⟩ := h c hc
    rw [hx, hy, compareOrEqual_finite] at hab
    rw [hy, hz, compareOrEqual_finite] at hbc
    rw [hx, hz, compareOrEqual_finite]
    exact Std.TransCmp.isLE_trans hab hbc

/-- An entry whose value is a number. -/
def ofNumber (p : K × Fin 2) : Extended K × Fin 2 := (finite p.1, p.2)

omit [Field K] in
/-- The order of numbers does not depend on the sort. -/
theorem combine_finite (sort : SortBy) (a b : List K) :
    combine sort (a.map finite) (b.map finite) = (ValOpt.combined a b).map ofNumber := by
  have hentries : ((a.map finite).map (·, (0 : Fin 2)) ++ (b.map finite).map (·, 1)) =
      (a.map (·, (0 : Fin 2)) ++ b.map (·, 1)).map ofNumber := by
    simp [List.map_map, Function.comp_def, ofNumber]
  have htotal : TotalOn (fun x y => compareOrEqual x.1 y.1)
      ((a.map (·, (0 : Fin 2)) ++ b.map (·, 1)).map ofNumber) := by
    apply totalOn_finite
    intro x hx
    obtain ⟨p, _, rfl⟩ := List.mem_map.mp hx
    exact ⟨p.1, rfl⟩
  -- so whatever the sort, it is the stable one here
  rw [combine, hentries, sort.sorted htotal, ValOpt.combined]
  symm
  apply List.map_mergeSort
  intro p _ q _
  rw [ofNumber, ofNumber, compareOrEqual_finite, Bool.eq_iff_iff, decide_eq_true_eq,
    ← Ordering.ne_gt_iff_isLE]
  exact compare_le_iff_le.symm

/-! ### The loop over numbers -/

section Loop

variable {numbers : List (K × Fin 2)} {i j : ℕ}

omit [Field K] [LinearOrder K] in
theorem valueAt_ofNumber (hi : i < numbers.length) :
    valueAt (numbers.map ofNumber) i = finite numbers[i].1 := by
  rw [valueAt, List.getD_eq_getElem _ _ (by rwa [List.length_map]), List.getElem_map]
  rfl

/-- The inner loop takes the values up to the first one that is not tied. -/
theorem tieEnd_ofNumber (hi : i < numbers.length) (j : ℕ) :
    tieEnd (numbers.map ofNumber) i j =
      j + ((numbers.drop j).takeWhile fun y => |y.1 - numbers[i].1| < 1 / 10 ^ 12).length := by
  have htied : ∀ {j} (hj : j < numbers.length),
      (valueAt (numbers.map ofNumber) j - valueAt (numbers.map ofNumber) i).abs < tolerance ↔
        |numbers[j].1 - numbers[i].1| < 1 / 10 ^ 12 := by
    intro j hj
    rw [valueAt_ofNumber hi, valueAt_ofNumber hj, finite_sub, abs_finite, tolerance, finite_lt]
  induction j using tieEnd.induct (numbers.map ofNumber) i with
  | case1 j h ih =>
    have hj : j < numbers.length := by
      rw [← List.length_map ofNumber]
      exact h.1
    have hlt := (htied hj).mp h.2
    rw [tieEnd, if_pos h, ih, List.drop_eq_getElem_cons hj,
      List.takeWhile_cons_of_pos (by rwa [decide_eq_true_eq]), List.length_cons]
    omega
  | case2 j h =>
    rw [tieEnd, if_neg h]
    by_cases hj : j < numbers.length
    · have hnot : ¬ |numbers[j].1 - numbers[i].1| < 1 / 10 ^ 12 := by
        intro hlt
        exact h ⟨by rwa [List.length_map], (htied hj).mpr hlt⟩
      rw [List.drop_eq_getElem_cons hj,
        List.takeWhile_cons_of_neg (by rwa [decide_eq_true_eq])]
      rfl
    · rw [List.drop_eq_nil_of_le (not_lt.mp hj)]
      rfl

omit [Field K] [LinearOrder K] in
/-- Writes to a range change one part of the ranks. -/
theorem foldl_set_append (avgRank : K) (before part after : List K) :
    (List.range' before.length part.length).foldl (fun ranks k => ranks.set k avgRank)
      (before ++ (part ++ after)) = before ++ (List.replicate part.length avgRank ++ after) := by
  induction part generalizing before with
  | nil => rfl
  | cons x part ih =>
    rw [List.length_cons, List.range'_succ, List.foldl_cons, List.set_append_right _ _ (le_refl _),
      Nat.sub_self, List.cons_append, List.set_cons_zero, List.replicate_succ]
    have h := ih (before ++ [avgRank])
    rw [List.length_append, List.length_singleton, List.append_assoc, List.append_assoc] at h
    exact h

variable [IsStrictOrderedRing K]

/-- The recursion of `midRanks`, at an index of the list. -/
theorem midRanks_drop (nTotal : ℕ) (hi : i < numbers.length)
    (hj : tieEnd (numbers.map ofNumber) i i = j) :
    midRanks nTotal i (numbers.drop i) =
      (List.replicate (j - i) ((i + 1 + j : ℕ) / 2 : K) ++ (midRanks nTotal j (numbers.drop j)).1,
        (if 1 < ((j - i : ℕ) : K) then
          (((j - i : ℕ) : K) ^ 3 - (j - i : ℕ)) / (nTotal * (nTotal - 1)) else 0) +
        (midRanks nTotal j (numbers.drop j)).2) := by
  have hself : |numbers[i].1 - numbers[i].1| < 1 / 10 ^ 12 := by
    rw [sub_self, abs_zero]
    positivity
  have hscan := tieEnd_ofNumber hi i
  rw [List.drop_eq_getElem_cons hi] at hscan ⊢
  rw [List.takeWhile_cons_of_pos (by rwa [decide_eq_true_eq]), List.length_cons, hj] at hscan
  -- what comes after the group of ties
  have hafter : ((numbers.drop (i + 1)).dropWhile fun y => |y.1 - numbers[i].1| < 1 / 10 ^ 12) =
      numbers.drop j := by
    have hdrop : numbers.drop j = (numbers.drop (i + 1)).drop
        ((numbers.drop (i + 1)).takeWhile fun y => |y.1 - numbers[i].1| < 1 / 10 ^ 12).length := by
      rw [List.drop_drop]
      congr 1
      omega
    rw [hdrop]
    conv_rhs =>
      arg 2
      rw [← List.takeWhile_append_dropWhile
        (p := fun y => decide (|y.1 - numbers[i].1| < 1 / 10 ^ 12)) (l := numbers.drop (i + 1))]
    rw [List.drop_left]
  have hlen : i + 1 + ((numbers.drop (i + 1)).takeWhile fun y =>
      |y.1 - numbers[i].1| < 1 / 10 ^ 12).length = j := by omega
  rw [midRanks, hafter, hlen]

omit [IsStrictOrderedRing K] in
/-- A round writes the ranks of one group. -/
theorem tieRound_ofNumber {s : TieLoop K} {before : List K} (hbefore : before.length = s.i)
    (hranks : s.ranks = before ++ List.replicate (numbers.length - s.i) 0)
    (hj : tieEnd (numbers.map ofNumber) s.i s.i = j) (hij : s.i ≤ j) (hjn : j ≤ numbers.length) :
    tieRound (numbers.map ofNumber) s =
      { i := j
        ranks := (before ++ List.replicate (j - s.i) ((s.i + 1 + j : ℕ) / 2 : K)) ++
          List.replicate (numbers.length - j) 0
        tieSum := s.tieSum +
          if 1 < ((j - s.i : ℕ) : K) then
            (((j - s.i : ℕ) : K) ^ 3 - (j - s.i : ℕ)) / (numbers.length * (numbers.length - 1))
          else 0 } := by
  have hsplit : List.replicate (numbers.length - s.i) (0 : K) =
      List.replicate (j - s.i) 0 ++ List.replicate (numbers.length - j) 0 := by
    rw [List.replicate_append_replicate]
    congr 1
    omega
  have hwrite := foldl_set_append ((s.i + 1 + j : ℕ) / 2 : K) before
    (List.replicate (j - s.i) 0) (List.replicate (numbers.length - j) 0)
  rw [List.length_replicate, hbefore, ← hsplit, ← hranks, ← List.append_assoc] at hwrite
  rw [tieRound, hj, List.length_map, hwrite]
  congr 1
  split
  · rfl
  · rw [add_zero]

/-- From an index on, the loop makes the ranks and the correction that `midRanks` does. -/
theorem tieLoop_ofNumber (numbers : List (K × Fin 2)) (s : TieLoop K) (before : List K)
    (hle : s.i ≤ numbers.length) (hbefore : before.length = s.i)
    (hranks : s.ranks = before ++ List.replicate (numbers.length - s.i) 0) :
    ∃ rounds, EndsAfter (fun s => s.i < (numbers.map ofNumber).length)
        (tieRound (numbers.map ofNumber)) rounds s ∧
      (tieRound (numbers.map ofNumber))^[rounds] s =
        { i := numbers.length
          ranks := before ++ (midRanks numbers.length s.i (numbers.drop s.i)).1
          tieSum := s.tieSum + (midRanks numbers.length s.i (numbers.drop s.i)).2 } := by
  induction hm : numbers.length - s.i using Nat.strong_induction_on generalizing s before with
  | _ m ih =>
    by_cases hi : s.i < numbers.length
    · obtain ⟨j, hj⟩ : ∃ j, tieEnd (numbers.map ofNumber) s.i s.i = j := ⟨_, rfl⟩
      have hlt : s.i < j := by
        rw [← hj]
        apply lt_tieEnd (by rwa [List.length_map])
        rw [valueAt_ofNumber hi]
        rfl
      have hjn : j ≤ numbers.length := by
        rw [← hj, ← List.length_map ofNumber]
        apply tieEnd_le
        rwa [List.length_map]
      have hround := tieRound_ofNumber hbefore hranks hj hlt.le hjn
      have hnext : (tieRound (numbers.map ofNumber) s).i = j := hj
      have hlen : (before ++ List.replicate (j - s.i) ((s.i + 1 + j : ℕ) / 2 : K)).length = j := by
        rw [List.length_append, List.length_replicate]
        omega
      obtain ⟨rounds, hends, hfinal⟩ := ih (numbers.length - j) (by omega) _ _ (hnext ▸ hjn)
        (hlen.trans hnext.symm) (by rw [hround]) (by rw [hnext])
      refine ⟨rounds + 1, endsAfter_succ_iff.mpr ⟨by rwa [List.length_map], hends⟩, ?_⟩
      rw [Function.iterate_succ_apply, hfinal, midRanks_drop _ hi hj, hround]
      dsimp only
      rw [List.append_assoc, add_assoc s.tieSum]
    · -- nothing is left
      obtain hlen : numbers.length = s.i := by omega
      refine ⟨0, endsAfter_zero ?_, ?_⟩
      · rw [List.length_map]
        exact hi
      · rw [List.drop_eq_nil_of_le (not_lt.mp hi), midRanks, add_zero, List.append_nil, hlen]
        rw [hlen, Nat.sub_self, List.replicate_zero, List.append_nil] at hranks
        rw [← hranks]
        rfl

end Loop

/-! ### The test of numbers -/

variable [IsStrictOrderedRing K]

/-- On numbers, the test on the values of `f64` returns what the exact test does. -/
theorem mannWhitneyUTest_finite (num : FloatNumerics K) (sort : SortBy) (a b : List K) :
    ∃ fuel, mannWhitneyUTest num sort fuel (a.map finite) (b.map finite) =
      some (ValOpt.mannWhitneyUTest num.toNumerics a b) := by
  have hlen : (combined a b).length = a.length + b.length := by
    rw [combined, List.length_mergeSort, List.length_append, List.length_map, List.length_map]
  obtain ⟨rounds, hends, hfinal⟩ := tieLoop_ofNumber (combined a b)
    (TieLoop.start K (combined a b).length) [] (Nat.zero_le _) rfl rfl
  have hloop := whileLoop_eq_some_iff.mpr ⟨rounds, le_refl rounds, hends, hfinal⟩
  rw [List.length_map, hlen, ← combine_finite sort] at hloop
  -- the sum of the ranks reads the samples that the entries are from, not their values
  have hzip : ∀ ranks : List K, List.zipWith (fun x rank => if x.2 = 0 then rank else 0)
      (combine sort (a.map finite) (b.map finite)) ranks =
        List.zipWith (fun x rank => if x.2 = 0 then rank else 0) (combined a b) ranks := by
    intro ranks
    rw [combine_finite, List.zipWith_map_left]
    rfl
  refine ⟨rounds, ?_⟩
  rw [mannWhitneyUTest, ValOpt.mannWhitneyUTest, List.length_map, List.length_map]
  split
  · rfl
  · dsimp only
    rw [hloop, Option.bind_eq_bind, Option.bind_some, ← combined]
    simp only [TieLoop.start, hzip, List.nil_append, zero_add, List.drop_zero]
    split <;> rfl

end F64

end ValOpt
