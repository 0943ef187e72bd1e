import Mathlib.Algebra.Order.Floor.Semiring
import Mathlib.Data.List.GetD
import Mathlib.Data.List.Sort
import Mathlib.Tactic.FieldSimp
import Mathlib.Tactic.Linarith
import Mathlib.Tactic.Positivity
import Mathlib.Tactic.Ring

/-!
# Sorted lists and relative changes

The value at a rank that need not be a whole number is read off the line between the two entries
next to it.  In a sorted list it lies between these two, and so

* it grows with the rank (`interpolate_mono`);
* it is within every bound on the entries (`le_interpolate`, `interpolate_le`);
* whatever it exceeds, all entries from the next one on exceed
  (`length_le_countP_of_lt_interpolate`).

The relative change from one sum to another lies between the relative changes of the summands: the
pairs whose change is within two bounds are closed under addition (`ChangeWithin.add`).

The degrees of freedom of a sum of two variances are at least the smaller ones of the two, and at
most their sum (`min_le_satterthwaite`, `satterthwaite_le`).
-/

namespace Statistics

/-! ### Numerals -/

-- numerals that several modules use, each with one instance for all of them

instance atLeastTwo_two : Nat.AtLeastTwo 2 := inferInstance

instance atLeastTwo_three : Nat.AtLeastTwo 3 := inferInstance

instance atLeastTwo_five : Nat.AtLeastTwo 5 := inferInstance

instance atLeastTwo_ten : Nat.AtLeastTwo 10 := inferInstance

instance atLeastTwo_twelve : Nat.AtLeastTwo 12 := inferInstance

instance atLeastTwo_fifty : Nat.AtLeastTwo 50 := inferInstance

instance atLeastTwo_ninetyFive : Nat.AtLeastTwo 95 := inferInstance

instance atLeastTwo_hundred : Nat.AtLeastTwo 100 := inferInstance

instance atLeastTwo_thousand : Nat.AtLeastTwo 1000 := inferInstance

instance neZero_two : NeZero (2 : ℕ) := inferInstance

/-! ### Interpolation -/

section Entries

variable {α : Type*} {xs : List α} {i j : ℕ}

theorem getD_mem {d : α} (hi : i < xs.length) : xs.getD i d ∈ xs := by
  rw [List.getD_eq_getElem _ _ hi]
  exact List.getElem_mem hi

theorem getD_le_getD [LinearOrder α] (d : α) (hs : xs.SortedLE) (hij : i ≤ j)
    (hj : j < xs.length) : xs.getD i d ≤ xs.getD j d := by
  rw [List.getD_eq_getElem _ _ hj, List.getD_eq_getElem _ _ (hij.trans_lt hj)]
  exact hs.getElem_le_getElem_of_le hij

/-- The first entry of a sorted list is the least. -/
theorem isLeast_getD_zero [LinearOrder α] (d : α) (hs : xs.SortedLE) (h : xs ≠ []) :
    IsLeast {x | x ∈ xs} (xs.getD 0 d) := by
  constructor
  · exact getD_mem (List.length_pos_of_ne_nil h)
  · intro x hx
    obtain ⟨i, hi, rfl⟩ := List.getElem_of_mem hx
    rw [← List.getD_eq_getElem xs d hi]
    exact getD_le_getD d hs (Nat.zero_le i) hi

/-- The last entry of a sorted list is the greatest. -/
theorem isGreatest_getD_last [LinearOrder α] (d : α) (hs : xs.SortedLE) (h : xs ≠ []) :
    IsGreatest {x | x ∈ xs} (xs.getD (xs.length - 1) d) := by
  have hpos := List.length_pos_of_ne_nil h
  constructor
  · exact getD_mem (by omega)
  · intro x hx
    obtain ⟨i, hi, rfl⟩ := List.getElem_of_mem hx
    rw [← List.getD_eq_getElem xs d hi]
    exact getD_le_getD d hs (by omega) (by omega)

/-- The sorted list is the same for any order of the entries. -/
theorem mergeSort_eq_of_perm [LinearOrder α] {ys : List α} (h : xs.Perm ys) :
    xs.mergeSort (· ≤ ·) = ys.mergeSort (· ≤ ·) := by
  have hperm : (xs.mergeSort (· ≤ ·)).Perm (ys.mergeSort (· ≤ ·)) :=
    (List.mergeSort_perm xs _).trans (h.trans (List.mergeSort_perm ys _).symm)
  exact hperm.eq_of_sortedLE List.sortedLE_mergeSort List.sortedLE_mergeSort

theorem mergeSort_ne_nil {le : α → α → Bool} (h : xs ≠ []) : xs.mergeSort le ≠ [] := by
  rw [ne_eq, ← List.length_eq_zero_iff, List.length_mergeSort, List.length_eq_zero_iff]
  exact h

end Entries

variable {K : Type*} [Field K] [LinearOrder K] [FloorSemiring K]

/-- The index of the entry above a rank. -/
def above (xs : List K) (rank : K) : ℕ := min (⌊rank⌋₊ + 1) (xs.length - 1)

/-- The value at a rank. -/
def interpolate (xs : List K) (rank : K) : K :=
  xs.getD ⌊rank⌋₊ 0 + (rank - ⌊rank⌋₊) * (xs.getD (above xs rank) 0 - xs.getD ⌊rank⌋₊ 0)

variable {xs : List K} {rank rank' : K}

theorem above_lt (h : xs ≠ []) : above xs rank < xs.length := by
  have hpos : 0 < xs.length := List.length_pos_iff.mpr h
  rw [above]
  omega

variable [IsStrictOrderedRing K]

/-- A rank up to the last index has an entry below it. -/
theorem floor_lt (h : xs ≠ []) (hr : rank ≤ (xs.length - 1 : ℕ)) : ⌊rank⌋₊ < xs.length := by
  have hpos : 0 < xs.length := List.length_pos_iff.mpr h
  have hle : ⌊rank⌋₊ ≤ xs.length - 1 := Nat.floor_le_of_le hr
  omega

theorem floor_le_above (hr : rank ≤ (xs.length - 1 : ℕ)) : ⌊rank⌋₊ ≤ above xs rank := by
  have hle : ⌊rank⌋₊ ≤ xs.length - 1 := Nat.floor_le_of_le hr
  rw [above]
  omega

/-- The value is at least the entry below the rank. -/
theorem getD_floor_le_interpolate (hs : xs.SortedLE) (h : xs ≠ []) (h0 : 0 ≤ rank)
    (hr : rank ≤ (xs.length - 1 : ℕ)) : xs.getD ⌊rank⌋₊ 0 ≤ interpolate xs rank := by
  have hle := getD_le_getD 0 hs (floor_le_above hr) (above_lt h)
  have hfrac : 0 ≤ rank - ⌊rank⌋₊ := sub_nonneg.mpr (Nat.floor_le h0)
  have hstep := mul_nonneg hfrac (sub_nonneg.mpr hle)
  rw [interpolate]
  linarith

/-- The value is at most the entry above the rank. -/
theorem interpolate_le_getD_above (hs : xs.SortedLE) (h : xs ≠ [])
    (hr : rank ≤ (xs.length - 1 : ℕ)) : interpolate xs rank ≤ xs.getD (above xs rank) 0 := by
  have hle := getD_le_getD 0 hs (floor_le_above hr) (above_lt h)
  have hfrac : rank - ⌊rank⌋₊ ≤ 1 := by
    have hlt := Nat.lt_floor_add_one rank
    linarith
  have hstep := mul_le_mul_of_nonneg_right hfrac (sub_nonneg.mpr hle)
  rw [interpolate]
  linarith

/-- The value grows with the rank. -/
theorem interpolate_mono (hs : xs.SortedLE) (h : xs ≠ []) (h0 : 0 ≤ rank) (hle : rank ≤ rank')
    (hr : rank' ≤ (xs.length - 1 : ℕ)) : interpolate xs rank ≤ interpolate xs rank' := by
  have hr₁ := hle.trans hr
  rcases (Nat.floor_mono hle).eq_or_lt with hfloor | hfloor
  · -- Both ranks are on the same line, which does not fall.
    have hstep := getD_le_getD 0 hs (floor_le_above hr₁) (above_lt h)
    have habove : above xs rank' = above xs rank := by rw [above, above, hfloor]
    rw [interpolate, interpolate, ← hfloor, habove]
    have := mul_le_mul_of_nonneg_right (sub_le_sub_right hle (⌊rank⌋₊ : K))
      (sub_nonneg.mpr hstep)
    linarith
  · -- An entry lies between the two values.
    have hlt := floor_lt h hr
    calc interpolate xs rank ≤ xs.getD (above xs rank) 0 := interpolate_le_getD_above hs h hr₁
      _ ≤ xs.getD ⌊rank'⌋₊ 0 := by
        apply getD_le_getD 0 hs _ hlt
        rw [above]
        omega
      _ ≤ interpolate xs rank' := getD_floor_le_interpolate hs h (h0.trans hle) hr

/-- A lower bound of the entries is one of the value. -/
theorem le_interpolate (hs : xs.SortedLE) (h : xs ≠ []) (h0 : 0 ≤ rank)
    (hr : rank ≤ (xs.length - 1 : ℕ)) {c : K} (hc : ∀ x ∈ xs, c ≤ x) : c ≤ interpolate xs rank :=
  (hc _ (getD_mem (floor_lt h hr))).trans (getD_floor_le_interpolate hs h h0 hr)

/-- An upper bound of the entries is one of the value. -/
theorem interpolate_le (hs : xs.SortedLE) (h : xs ≠ []) (hr : rank ≤ (xs.length - 1 : ℕ)) {c : K}
    (hc : ∀ x ∈ xs, x ≤ c) : interpolate xs rank ≤ c :=
  (interpolate_le_getD_above hs h hr).trans (hc _ (getD_mem (above_lt h)))

/-- What the value exceeds, all entries but the first `⌊rank⌋₊ + 1` exceed. -/
theorem length_le_countP_of_lt_interpolate (hs : xs.SortedLE) (h : xs ≠ [])
    (hr : rank ≤ (xs.length - 1 : ℕ)) {c : K} (hc : c < interpolate xs rank) :
    xs.length ≤ xs.countP (c < ·) + (⌊rank⌋₊ + 1) := by
  have hhigh := hc.trans_le (interpolate_le_getD_above hs h hr)
  have hall : ∀ x ∈ xs.drop (above xs rank), c < x := by
    intro x hx
    obtain ⟨i, hi, rfl⟩ := List.mem_iff_getElem.mp hx
    rw [List.length_drop] at hi
    rw [List.getElem_drop]
    apply hhigh.trans_le
    rw [List.getD_eq_getElem _ _ (above_lt h)]
    exact hs.getElem_le_getElem_of_le (Nat.le_add_right _ i)
  have hcount : (xs.drop (above xs rank)).countP (c < ·) = xs.length - above xs rank := by
    rw [List.countP_eq_length.mpr (by simpa using hall), List.length_drop]
  have hle := (List.drop_sublist (above xs rank) xs).countP_le (p := (c < ·))
  have habove : above xs rank ≤ ⌊rank⌋₊ + 1 := min_le_left _ _
  omega

/-! ### Relative changes -/

section Change

variable {K : Type*} [Field K]

/-- The change from `a` to `b`, in percent. -/
def percentChange (a b : K) : K := (b - a) / a * 100

/-- The change does not depend on a common divisor, such as the number of summands. -/
theorem percentChange_div {n : K} (hn : n ≠ 0) (a b : K) :
    percentChange (a / n) (b / n) = percentChange a b := by
  rw [percentChange, percentChange, ← sub_div, div_div_div_cancel_right₀ hn]

variable [LinearOrder K]

/-- The change from a number, if it is not zero, is between `lo` and `hi` percent. -/
structure ChangeWithin (lo hi a b : K) : Prop where
  nonneg : 0 ≤ a
  lower : lo * a ≤ (b - a) * 100
  upper : (b - a) * 100 ≤ hi * a

variable {lo hi a a' b b' : K}

theorem ChangeWithin.zero : ChangeWithin lo hi 0 0 where
  nonneg := le_refl 0
  lower := by simp
  upper := by simp

variable [IsStrictOrderedRing K]

theorem ChangeWithin.add (h : ChangeWithin lo hi a b) (h' : ChangeWithin lo hi a' b') :
    ChangeWithin lo hi (a + a') (b + b') where
  nonneg := add_nonneg h.nonneg h'.nonneg
  lower := by linarith [h.lower, h'.lower]
  upper := by linarith [h.upper, h'.upper]

/-- Within two bounds is what has its change between them. -/
theorem changeWithin_iff (ha : 0 < a) :
    ChangeWithin lo hi a b ↔ lo ≤ percentChange a b ∧ percentChange a b ≤ hi := by
  have hpercent : percentChange a b = (b - a) * 100 / a := by
    rw [percentChange]
    ring
  rw [hpercent, le_div_iff₀ ha, div_le_iff₀ ha]
  constructor
  · intro h
    exact ⟨h.lower, h.upper⟩
  · intro ⟨hlo, hhi⟩
    exact ⟨ha.le, hlo, hhi⟩

theorem percentChange_pos_iff (ha : 0 < a) : 0 < percentChange a b ↔ a < b := by
  rw [percentChange, mul_pos_iff_of_pos_right (by norm_num), div_pos_iff_of_pos_right ha, sub_pos]

end Change

/-! ### Degrees of freedom -/

section Satterthwaite

variable {K : Type*} [Field K]

/-- The degrees of freedom of the sum of two variances `u` and `v` with `p` and `q` of them. -/
def satterthwaite (u v p q : K) : K := (u + v) ^ 2 / (u ^ 2 / p + v ^ 2 / q)

theorem satterthwaite_swap (u v p q : K) : satterthwaite v u q p = satterthwaite u v p q := by
  rw [satterthwaite, satterthwaite, add_comm v, add_comm (v ^ 2 / q)]

variable [LinearOrder K] [IsStrictOrderedRing K] {u v p q : K}

theorem satterthwaite_divisor_pos (hv : 0 ≤ v) (huv : 0 < u + v) (hp : 0 < p) (hq : 0 < q) :
    0 < u ^ 2 / p + v ^ 2 / q := by
  have hterm : 0 ≤ u ^ 2 / p := div_nonneg (sq_nonneg u) hp.le
  rcases hv.eq_or_lt with rfl | hpos
  · rw [add_zero] at huv
    exact add_pos_of_pos_of_nonneg (div_pos (pow_pos huv 2) hp) (div_nonneg (sq_nonneg 0) hq.le)
  · exact add_pos_of_nonneg_of_pos hterm (div_pos (pow_pos hpos 2) hq)

theorem min_le_satterthwaite (hu : 0 ≤ u) (hv : 0 ≤ v) (huv : 0 < u + v) (hp : 0 < p)
    (hq : 0 < q) : min p q ≤ satterthwaite u v p q := by
  have hmin : 0 < min p q := lt_min hp hq
  have hle : ∀ {x r : K}, min p q ≤ r → 0 < r → min p q * (x ^ 2 / r) ≤ x ^ 2 := by
    intro x r hr hpos
    calc min p q * (x ^ 2 / r) ≤ r * (x ^ 2 / r) :=
          mul_le_mul_of_nonneg_right hr (div_nonneg (sq_nonneg x) hpos.le)
      _ = x ^ 2 := mul_div_cancel₀ _ hpos.ne'
  rw [satterthwaite, le_div_iff₀ (satterthwaite_divisor_pos hv huv hp hq), mul_add]
  calc min p q * (u ^ 2 / p) + min p q * (v ^ 2 / q) ≤ u ^ 2 + v ^ 2 :=
        add_le_add (hle (min_le_left p q) hp) (hle (min_le_right p q) hq)
    _ ≤ u ^ 2 + v ^ 2 + 2 * (u * v) := le_add_of_nonneg_right (by positivity)
    _ = (u + v) ^ 2 := by ring

/-- The inequality of Cauchy and Schwarz, for two summands. -/
theorem satterthwaite_le (hv : 0 ≤ v) (huv : 0 < u + v) (hp : 0 < p) (hq : 0 < q) :
    satterthwaite u v p q ≤ p + q := by
  rw [satterthwaite, div_le_iff₀ (satterthwaite_divisor_pos hv huv hp hq)]
  have hsquare : (p + q) * (u ^ 2 / p + v ^ 2 / q) - (u + v) ^ 2 =
      (q * u - p * v) ^ 2 / (p * q) := by
    field_simp
    ring
  have hnonneg : 0 ≤ (q * u - p * v) ^ 2 / (p * q) := by positivity
  linarith

end Satterthwaite

end Statistics
