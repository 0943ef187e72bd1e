import Mathlib.Tactic.Positivity
import ValOpt.Benchmarking.Equiv.Comparison
import ValOpt.Benchmarking.FloatStats

/-!
# The loop over the groups of ties, with the values of `f64`

A round of the loop in `mann_whitney_u_test` advances over the values that are tied with the one at
`i`, and this one is tied with itself unless it is infinite or NaN: then the difference is NaN, the
round advances over nothing, and so does every round after it.

* What the rounds advance over are numbers (`RankedBefore`), so a loop that ends has met numbers
  only.
* Over numbers each round advances, so the loop ends and ranks each index once
  (`exists_ranksEach`).

So the test and `compare_ab_trials` return exactly where all values are finite or a sample is too
short for the test (`rankAssignment_iff`), in whatever order the values are sorted.
-/

namespace ValOpt

open Extended Loop

namespace F64

variable {K : Type} [Field K] [LinearOrder K] {combined : List (Extended K × Fin 2)} {i j k : ℕ}

/-! ### The inner loop -/

/-- The value at an index. -/
def valueAt (combined : List (Extended K × Fin 2)) (k : ℕ) : Extended K :=
  (combined.getD k (nan, 0)).1

theorem tieEnd_eq (combined : List (Extended K × Fin 2)) (i j : ℕ) :
    tieEnd combined i j =
      if j < combined.length ∧ (valueAt combined j - valueAt combined i).abs < tolerance then
        tieEnd combined i (j + 1)
      else j := by
  rw [tieEnd]
  rfl

theorem le_tieEnd (combined : List (Extended K × Fin 2)) (i j : ℕ) : j ≤ tieEnd combined i j := by
  induction j using tieEnd.induct combined i with
  | case1 j h ih =>
    rw [tieEnd, if_pos h]
    omega
  | case2 j h => rw [tieEnd, if_neg h]

theorem tieEnd_le (hj : j ≤ combined.length) : tieEnd combined i j ≤ combined.length := by
  induction j using tieEnd.induct combined i with
  | case1 j h ih =>
    rw [tieEnd, if_pos h]
    exact ih h.1
  | case2 j h =>
    rw [tieEnd, if_neg h]
    exact hj

/-- The inner loop accepts numbers only. -/
theorem isFinite_of_lt_tieEnd (hjk : j ≤ k) (hk : k < tieEnd combined i j) :
    (valueAt combined k).isFinite = true := by
  induction j using tieEnd.induct combined i with
  | case1 j h ih =>
    rw [tieEnd, if_pos h] at hk
    rcases hjk.eq_or_lt with rfl | hlt
    · obtain ⟨x, _, hx, _, _⟩ := abs_sub_lt_iff.mp h.2
      exact isFinite_iff.mpr ⟨x, hx⟩
    · exact ih hlt hk
  | case2 j h =>
    rw [tieEnd, if_neg h] at hk
    omega

/-- It accepts at least the value it starts with, if that is a number. -/
theorem lt_tieEnd [IsStrictOrderedRing K] (hi : i < combined.length)
    (h : (valueAt combined i).isFinite = true) : i < tieEnd combined i i := by
  obtain ⟨x, hx⟩ := isFinite_iff.mp h
  -- only a number less itself is zero
  have htied : (valueAt combined i - valueAt combined i).abs < tolerance := by
    refine abs_sub_lt_iff.mpr ⟨x, x, hx, hx, ?_⟩
    rw [sub_self, abs_zero]
    positivity
  rw [tieEnd_eq, if_pos ⟨hi, htied⟩]
  exact Nat.lt_of_succ_le (le_tieEnd combined i (i + 1))

/-! ### The rounds -/

/-- The variables after some rounds. -/
def tieState (combined : List (Extended K × Fin 2)) (r : ℕ) : TieLoop K :=
  (tieRound combined)^[r] (TieLoop.start K combined.length)

theorem tieState_succ (combined : List (Extended K × Fin 2)) (r : ℕ) :
    tieState combined (r + 1) = tieRound combined (tieState combined r) :=
  Function.iterate_succ_apply' _ _ _

/-- The loop ends.  Each round advances, each index is in one round, and has the rank of this round
in the end. -/
structure RanksEach (combined : List (Extended K × Fin 2)) (rounds : ℕ) : Prop where
  ends : EndsAfter (fun s => s.i < combined.length) (tieRound combined) rounds
    (TieLoop.start K combined.length)
  advances : ∀ r < rounds, (tieState combined r).i < (tieState combined (r + 1)).i
  covers : ∀ k < combined.length, ∃! r, r < rounds ∧ (tieState combined r).i ≤ k ∧
    k < (tieState combined (r + 1)).i
  ranks : ∀ r < rounds, ∀ k, (tieState combined r).i ≤ k → k < (tieState combined (r + 1)).i →
    (tieState combined rounds).ranks[k]? =
      some (((tieState combined r).i + 1 + (tieState combined (r + 1)).i : ℕ) / 2 : K)

/-- What has been ranked are numbers. -/
structure RankedBefore (combined : List (Extended K × Fin 2)) (s : TieLoop K) : Prop where
  le : s.i ≤ combined.length
  finite : ∀ k < s.i, (valueAt combined k).isFinite = true

omit [LinearOrder K] in
theorem RankedBefore.start (combined : List (Extended K × Fin 2)) :
    RankedBefore combined (TieLoop.start K combined.length) :=
  ⟨Nat.zero_le _, fun _ hk => absurd hk (Nat.not_lt_zero _)⟩

theorem RankedBefore.round {s : TieLoop K} (h : RankedBefore combined s) :
    RankedBefore combined (tieRound combined s) where
  le := tieEnd_le h.le
  finite k hk := by
    rcases lt_or_ge k s.i with hlt | hge
    · exact h.finite k hlt
    · exact isFinite_of_lt_tieEnd hge hk

theorem rankedBefore_tieState (combined : List (Extended K × Fin 2)) (r : ℕ) :
    RankedBefore combined (tieState combined r) := by
  induction r with
  | zero => exact .start combined
  | succ r ih =>
    rw [tieState_succ]
    exact ih.round

/-- A loop that ends has met numbers only. -/
theorem isFinite_of_endsAfter {rounds : ℕ}
    (h : EndsAfter (fun s => s.i < combined.length) (tieRound combined) rounds
      (TieLoop.start K combined.length)) (hk : k < combined.length) :
    (valueAt combined k).isFinite = true :=
  (rankedBefore_tieState combined rounds).finite k (hk.trans_le (not_lt.mp h.ends))

/-! ### The ranks -/

omit [Field K] [LinearOrder K] in
/-- The write loop sets the ranks of one range. -/
theorem getElem?_foldl_set (avgRank : K) (i c k : ℕ) (ranks : List K) :
    ((List.range' i c).foldl (fun ranks k => ranks.set k avgRank) ranks)[k]? =
      if i ≤ k ∧ k < i + c then ranks[k]?.map fun _ => avgRank else ranks[k]? := by
  induction c generalizing i ranks with
  | zero =>
    rw [if_neg (by omega)]
    rfl
  | succ c ih =>
    rw [List.range'_succ, List.foldl_cons, ih, List.getElem?_set']
    by_cases hik : i = k
    · -- the first index is not written again
      subst hik
      rw [if_neg (by omega), if_pos rfl, if_pos (by omega)]
      rfl
    · rw [if_neg hik]
      exact if_congr (by omega) rfl rfl

theorem tieRound_ranks (combined : List (Extended K × Fin 2)) (s : TieLoop K) (k : ℕ) :
    (tieRound combined s).ranks[k]? =
      if s.i ≤ k ∧ k < (tieRound combined s).i then
        s.ranks[k]?.map fun _ => ((s.i + 1 + (tieRound combined s).i : ℕ) / 2 : K)
      else s.ranks[k]? := by
  have hle : s.i ≤ (tieRound combined s).i := le_tieEnd combined s.i s.i
  have hset := getElem?_foldl_set ((s.i + 1 + (tieRound combined s).i : ℕ) / 2 : K) s.i
    ((tieRound combined s).i - s.i) k s.ranks
  rw [Nat.add_sub_cancel' hle] at hset
  exact hset

theorem tieState_mono (combined : List (Extended K × Fin 2)) {r r' : ℕ} (h : r ≤ r') :
    (tieState combined r).i ≤ (tieState combined r').i := by
  induction r', h using Nat.le_induction with
  | base => exact le_refl _
  | succ r' _ ih =>
    rw [tieState_succ]
    exact ih.trans (le_tieEnd _ _ _)

theorem tieState_ranks_length (combined : List (Extended K × Fin 2)) (r : ℕ) :
    (tieState combined r).ranks.length = combined.length := by
  have hset : ∀ (avgRank : K) (indices : List ℕ) (ranks : List K),
      (indices.foldl (fun ranks k => ranks.set k avgRank) ranks).length = ranks.length := by
    intro avgRank indices
    induction indices with
    | nil => exact fun _ => rfl
    | cons k indices ih => exact fun ranks => (ih _).trans List.length_set
  induction r with
  | zero => exact List.length_replicate
  | succ r ih =>
    rw [tieState_succ]
    exact (hset _ _ _).trans ih

/-- An index has the rank of its round, from this round on. -/
theorem tieState_ranks {r r' : ℕ} (hr : r < r') (hle : (tieState combined r).i ≤ k)
    (hlt : k < (tieState combined (r + 1)).i) : (tieState combined r').ranks[k]? =
      some (((tieState combined r).i + 1 + (tieState combined (r + 1)).i : ℕ) / 2 : K) := by
  induction r', hr using Nat.le_induction with
  | base =>
    have hk : k < (tieState combined r).ranks.length := by
      rw [tieState_ranks_length]
      exact hlt.trans_le (rankedBefore_tieState combined (r + 1)).le
    rw [tieState_succ] at hlt ⊢
    rw [tieRound_ranks, if_pos ⟨hle, hlt⟩, List.getElem?_eq_getElem hk]
    rfl
  | succ r' hr ih =>
    -- later rounds write later indices
    have hlater : (tieState combined (r + 1)).i ≤ (tieState combined r').i :=
      tieState_mono combined hr
    rw [tieState_succ combined r', tieRound_ranks, if_neg (by omega), ih]

section Termination

variable [IsStrictOrderedRing K]

/-- The loop over numbers ends. -/
theorem exists_ranksEach (h : ∀ k < combined.length, (valueAt combined k).isFinite = true) :
    ∃ rounds, RanksEach combined rounds := by
  have hround : ∀ s : TieLoop K, s.i < combined.length → s.i < (tieRound combined s).i :=
    fun s hs => lt_tieEnd hs (h s.i hs)
  -- what is left of the list is the measure
  obtain ⟨rounds, hends⟩ : ∃ rounds, EndsAfter (fun s => s.i < combined.length)
      (tieRound combined) rounds (TieLoop.start K combined.length) := by
    apply exists_endsAfter (I := fun s => s.i ≤ combined.length) fun s => combined.length - s.i
    · intro s hle hlt
      have hadvance := hround s hlt
      have hle' : (tieRound combined s).i ≤ combined.length := tieEnd_le hle
      exact ⟨hle', show combined.length - (tieRound combined s).i < combined.length - s.i by omega⟩
    · exact Nat.zero_le _
  have hadvances : ∀ r < rounds, (tieState combined r).i < (tieState combined (r + 1)).i := by
    intro r hr
    rw [tieState_succ]
    exact hround _ (hends.runs r hr)
  refine ⟨rounds, hends, hadvances, ?_, ?_⟩
  · intro k hk
    exact existsUnique_round hadvances (Nat.zero_le k) (hk.trans_le (not_lt.mp hends.ends))
  · intro r hr k hle hlt
    exact tieState_ranks hr hle hlt

/-- The loop ends exactly if all values are numbers. -/
theorem ranksEach_iff : (∃ rounds, RanksEach combined rounds) ↔
    ∀ x ∈ combined, x.1.isFinite = true := by
  have hvalue : ∀ {k} (hk : k < combined.length), valueAt combined k = combined[k].1 :=
    fun hk => congrArg Prod.fst (List.getD_eq_getElem _ _ hk)
  constructor
  · intro ⟨rounds, h⟩ x hx
    obtain ⟨k, hk, rfl⟩ := List.getElem_of_mem hx
    rw [← hvalue hk]
    exact isFinite_of_endsAfter h.ends hk
  · intro h
    apply exists_ranksEach
    intro k hk
    rw [hvalue hk]
    exact h _ (List.getElem_mem hk)

end Termination

/-! ### The calls -/

section Calls

variable {num : FloatNumerics K} {rng : Generator} {sort : SortBy} {fuel : ℕ}
  {a b : List (Extended K)} {base opt : List (BenchmarkMetrics (Extended K))}

omit [Field K] in
theorem combine_perm (sort : SortBy) (a b : List (Extended K)) :
    ((combine sort a b).map Prod.fst).Perm (a ++ b) := by
  have hperm := (sort.perm (fun x y => compareOrEqual x.1 y.1)
    (a.map (·, (0 : Fin 2)) ++ b.map (·, 1))).map Prod.fst
  have hfst : (a.map (·, (0 : Fin 2)) ++ b.map (·, 1)).map Prod.fst = a ++ b := by
    simp [List.map_map, Function.comp_def]
  rw [hfst] at hperm
  exact hperm

omit [Field K] in
theorem length_combine (sort : SortBy) (a b : List (Extended K)) :
    (combine sort a b).length = a.length + b.length := by
  rw [← List.length_map Prod.fst, (combine_perm sort a b).length_eq, List.length_append]

omit [Field K] in
theorem forall_mem_combine (sort : SortBy) (a b : List (Extended K)) :
    (∀ x ∈ combine sort a b, x.1.isFinite = true) ↔ ∀ x ∈ a ++ b, x.isFinite = true := by
  rw [← List.forall_mem_map (P := fun x : Extended K => x.isFinite = true)]
  exact forall_congr' fun x => by rw [(combine_perm sort a b).mem_iff]

/-- The test has returned where the loop has ended, or it does not come to it. -/
theorem mannWhitneyUTest_isSome : (mannWhitneyUTest num sort fuel a b).isSome ↔
    a.length < 2 ∨ b.length < 2 ∨ ∃ t, whileLoop (fun s => s.i < (combine sort a b).length)
      (tieRound (combine sort a b)) fuel (TieLoop.start K (combine sort a b).length) = some t := by
  rw [length_combine, mannWhitneyUTest]
  split
  next h => exact iff_of_true rfl (h.imp_right Or.inl)
  next h =>
    have hshort : ∀ {P : Prop}, (a.length < 2 ∨ b.length < 2 ∨ P) ↔ P := by
      intro P
      rw [← or_assoc, or_iff_right h]
    rw [hshort]
    dsimp only
    cases whileLoop (fun s => s.i < a.length + b.length) (tieRound (combine sort a b)) fuel
        (TieLoop.start K (a.length + b.length)) with
    | none => exact iff_of_false (by simp) (by simp)
    | some t =>
      refine iff_of_true ?_ ⟨t, rfl⟩
      rw [Option.bind_eq_bind, Option.bind_some]
      split <;> rfl

/-- Welch's test fails for a short sample only. -/
theorem welchTTest_short (num : FloatNumerics K) (h : a.length < 2 ∨ b.length < 2) :
    ∃ e, welchTTest num a b = .error e := by
  rw [welchTTest, if_pos h]
  exact ⟨_, rfl⟩

theorem welchTTest_long (num : FloatNumerics K) (h : ¬ (a.length < 2 ∨ b.length < 2)) :
    ∃ t df p, welchTTest num a b = .ok (t, df, p) := by
  rw [welchTTest, if_neg h]
  dsimp only
  split
  · split <;> exact ⟨_, _, _, rfl⟩
  · exact ⟨_, _, _, rfl⟩

/-- A comparison has returned where the Mann-Whitney test has. -/
theorem compareAbTrials_isSome [FloorSemiring K] :
    (compareAbTrials num rng sort fuel base opt).isSome ↔
      (mannWhitneyUTest num sort fuel (base.map (·.onePercentLowFps))
        (opt.map (·.onePercentLowFps))).isSome := by
  by_cases h : (base.map (·.onePercentLowFps)).length < 2 ∨
      (opt.map (·.onePercentLowFps)).length < 2
  · -- Welch's test, which comes first, ends both
    obtain ⟨e, he⟩ := welchTTest_short num h
    refine iff_of_true ?_ (mannWhitneyUTest_isSome.mpr (h.imp_right Or.inl))
    rw [compareAbTrials]
    split
    · rfl
    · dsimp only
      rw [he]
      rfl
  · obtain ⟨t, df, p, hok⟩ := welchTTest_long num h
    have hempty : ¬ (base.isEmpty || opt.isEmpty) = true := by
      rw [List.length_map, List.length_map] at h
      rw [Bool.or_eq_true, List.isEmpty_iff, List.isEmpty_iff]
      rintro (rfl | rfl)
      · exact h (.inl Nat.zero_lt_two)
      · exact h (.inr Nat.zero_lt_two)
    rw [compareAbTrials, if_neg hempty]
    dsimp only
    rw [hok]
    cases mannWhitneyUTest num sort fuel (base.map (·.onePercentLowFps))
        (opt.map (·.onePercentLowFps)) with
    | none => rfl
    | some r => rfl

/-- The samples that the loop is not needed for, or whose values are numbers. -/
def Rankable (a b : List (Extended K)) : Prop :=
  a.length < 2 ∨ b.length < 2 ∨ ∀ x ∈ a ++ b, x.isFinite = true

/-- The call returns, and the loop, if the call comes to it, ranks each index once. -/
structure RankAssignment (num : FloatNumerics K) (sort : SortBy) (a b : List (Extended K)) :
    Prop where
  returns : ∃ fuel, (mannWhitneyUTest num sort fuel a b).isSome
  ranksEach : 2 ≤ a.length → 2 ≤ b.length → ∃ rounds, RanksEach (combine sort a b) rounds

variable [IsStrictOrderedRing K]

/-- With enough rounds the test returns exactly for these samples. -/
theorem exists_mannWhitneyUTest_iff :
    (∃ fuel, (mannWhitneyUTest num sort fuel a b).isSome) ↔ Rankable a b := by
  simp only [mannWhitneyUTest_isSome]
  rw [exists_or, exists_const, exists_or, exists_const, exists_whileLoop_iff, Rankable,
    ← forall_mem_combine sort]
  have hends : (∃ rounds, EndsAfter (fun s => s.i < (combine sort a b).length)
      (tieRound (combine sort a b)) rounds (TieLoop.start K (combine sort a b).length)) ↔
        ∀ x ∈ combine sort a b, x.1.isFinite = true := by
    rw [← ranksEach_iff]
    constructor
    · rintro ⟨rounds, h⟩
      exact exists_ranksEach fun k hk => isFinite_of_endsAfter h hk
    · rintro ⟨rounds, h⟩
      exact ⟨rounds, h.ends⟩
  rw [hends]

/-- The ranks are assigned, and a comparison returns, exactly where all values are finite or a
sample is too short for the test. -/
theorem rankAssignment_iff [FloorSemiring K] (num : FloatNumerics K) (rng : Generator)
    (sort : SortBy) :
    (∀ a b : List (Extended K), RankAssignment num sort a b ↔ Rankable a b) ∧
      ∀ base opt : List (BenchmarkMetrics (Extended K)),
        (∃ fuel, (compareAbTrials num rng sort fuel base opt).isSome) ↔
          Rankable (base.map (·.onePercentLowFps)) (opt.map (·.onePercentLowFps)) := by
  constructor
  · intro a b
    constructor
    · intro h
      exact exists_mannWhitneyUTest_iff.mp h.returns
    · intro h
      refine ⟨exists_mannWhitneyUTest_iff.mpr h, fun ha hb => ?_⟩
      rw [ranksEach_iff, forall_mem_combine]
      exact (h.resolve_left ha.not_gt).resolve_left hb.not_gt
  · intro base opt
    simp only [compareAbTrials_isSome]
    exact exists_mannWhitneyUTest_iff

end Calls

/-! ### Instances -/

/-- The stable sort, whatever the comparison. -/
def stableSort : SortBy where
  sortBy cmp xs := xs.mergeSort fun a b => (cmp a b).isLE
  perm _ xs := List.mergeSort_perm xs _
  sorted _ := rfl

/-- The functions of the samples, also for values that are not finite. -/
noncomputable def sampleFloatNumerics : FloatNumerics ℝ where
  toNumerics := sampleNumerics
  incompleteBeta _ _ _ := finite 0
  incompleteBeta_finite _ _ _ := rfl

/-- A trial with one value for all its statistics. -/
def sampleRun (fps : Extended ℝ) : BenchmarkMetrics (Extended ℝ) where
  provenance := .default
  environment := none
  avgFps := fps
  onePercentLowFps := fps
  zeroPointOnePercentLowFps := fps
  frameTimeStdDevMs := fps

theorem rankAssignment_finite :
    RankAssignment sampleFloatNumerics stableSort [finite 1, finite 2] [finite 2, finite 3] ∧
      ∃ fuel, (compareAbTrials sampleFloatNumerics xorshift64 stableSort fuel
        [sampleRun (finite 1), sampleRun (finite 2)]
        [sampleRun (finite 2), sampleRun (finite 3)]).isSome := by
  have hiff := rankAssignment_iff sampleFloatNumerics xorshift64 stableSort
  have hrankable : Rankable [finite 1, finite 2] [finite 2, finite (3 : ℝ)] := by
    refine .inr (.inr fun x hx => ?_)
    simp only [List.cons_append, List.nil_append, List.mem_cons, List.not_mem_nil, or_false] at hx
    rcases hx with rfl | rfl | rfl | rfl <;> rfl
  exact ⟨(hiff.1 _ _).mpr hrankable, (hiff.2 _ _).mpr hrankable⟩

/-- One infinite value, and neither call returns. -/
theorem rankAssignment_infinite :
    (∀ fuel, mannWhitneyUTest sampleFloatNumerics stableSort fuel [infinity, finite 1]
      [finite 1, finite 2] = none) ∧
    ∀ fuel, compareAbTrials sampleFloatNumerics xorshift64 stableSort fuel
      [sampleRun infinity, sampleRun (finite 1)] [sampleRun (finite 1), sampleRun (finite 2)] =
        none := by
  have hnot : ¬ Rankable [infinity, finite 1] [finite 1, finite (2 : ℝ)] := by
    rintro (h | h | h)
    · exact absurd h (lt_irrefl 2)
    · exact absurd h (lt_irrefl 2)
    · exact absurd (h infinity List.mem_cons_self) Bool.false_ne_true
  have htest : ∀ fuel, mannWhitneyUTest sampleFloatNumerics stableSort fuel [infinity, finite 1]
      [finite 1, finite 2] = none := by
    intro fuel
    rw [← Option.not_isSome_iff_eq_none]
    exact fun h => hnot (exists_mannWhitneyUTest_iff.mp ⟨fuel, h⟩)
  refine ⟨htest, fun fuel => ?_⟩
  rw [← Option.not_isSome_iff_eq_none, compareAbTrials_isSome]
  have hnone := htest fuel
  rw [← Option.not_isSome_iff_eq_none] at hnone
  exact hnone

end F64

end ValOpt
