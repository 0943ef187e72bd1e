import ValOpt.Statistics.Basic

/-!
# Lists of two values

A list whose entries have one of two values is sorted into two blocks (`sorted_blocks`), and the
value at a rank says whether the rank has left the first one (`interpolate_blocks_eq_iff`).
-/

namespace Statistics

/-! ### The blocks -/

section Blocks

variable {α β : Type*}

/-- So many copies of one value, then so many of another. -/
def blocks (m : ℕ) (x : β) (n : ℕ) (y : β) : List β := List.replicate m x ++ List.replicate n y

variable {m n i : ℕ} {x y : β}

@[simp] theorem length_blocks : (blocks m x n y).length = m + n := by
  rw [blocks, List.length_append, List.length_replicate, List.length_replicate]

theorem getD_blocks_left (d : β) (h : i < m) : (blocks m x n y).getD i d = x := by
  rw [blocks, List.getD_append _ _ _ _ (by rwa [List.length_replicate]), List.getD_replicate _ h]

theorem getD_blocks_right (d : β) (h : m ≤ i) (hi : i < m + n) : (blocks m x n y).getD i d = y := by
  rw [blocks, List.getD_append_right _ _ _ _ (by rwa [List.length_replicate]),
    List.length_replicate, List.getD_replicate _ (by omega)]

/-- The values that a predicate chooses are blocks in another order. -/
theorem map_ite_perm (p : α → Bool) (x y : β) (l : List α) :
    (l.map fun a => if p a then y else x).Perm
      (blocks (l.countP fun a => !p a) x (l.countP p) y) := by
  induction l with
  | nil => exact .nil
  | cons a l ih =>
    rw [List.map_cons]
    by_cases ha : p a
    · rw [if_pos ha, List.countP_cons_of_neg (by simp [ha]), List.countP_cons_of_pos ha, blocks,
        List.replicate_succ]
      exact (ih.cons y).trans List.perm_middle.symm
    · rw [if_neg ha, List.countP_cons_of_pos (by simp [ha]), List.countP_cons_of_neg ha, blocks,
        List.replicate_succ, List.cons_append]
      exact ih.cons x

theorem sortedLE_blocks [LinearOrder β] (h : x ≤ y) : (blocks m x n y).SortedLE := by
  apply List.Pairwise.sortedLE
  rw [blocks, List.pairwise_append]
  refine ⟨List.pairwise_replicate_of_refl, List.pairwise_replicate_of_refl, ?_⟩
  intro u hu v hv
  rw [List.eq_of_mem_replicate hu, List.eq_of_mem_replicate hv]
  exact h

/-- The chosen values, sorted. -/
theorem sorted_blocks [LinearOrder β] (p : α → Bool) (h : x ≤ y) (l : List α) :
    (l.map fun a => if p a then y else x).mergeSort (· ≤ ·) =
      blocks (l.countP fun a => !p a) x (l.countP p) y := by
  apply List.Perm.eq_of_sortedLE List.sortedLE_mergeSort (sortedLE_blocks h)
  exact (List.mergeSort_perm _ _).trans (map_ite_perm p x y l)

end Blocks

/-! ### The value at a rank -/

variable {K : Type*} [Field K] [LinearOrder K] [FloorSemiring K] [IsStrictOrderedRing K]
  {m n : ℕ} {x y rank : K}

/-- A rank in the first block. -/
theorem interpolate_blocks_left (h0 : 0 ≤ rank) (hr : rank + 1 ≤ m) :
    interpolate (blocks m x n y) rank = x := by
  have hfloor : ⌊rank⌋₊ < m := by
    have hlt : ((⌊rank⌋₊ : ℕ) : K) < m := by linarith [Nat.floor_le h0]
    exact_mod_cast hlt
  rw [interpolate, getD_blocks_left 0 hfloor]
  rcases (Nat.floor_le h0).eq_or_lt with heq | hlt
  · rw [heq, sub_self, zero_mul, add_zero]
  · -- the entry above is in the first block too
    have hnext : ⌊rank⌋₊ + 1 < m := by
      have hlt' : ((⌊rank⌋₊ + 1 : ℕ) : K) < m := by
        push_cast
        linarith
      exact_mod_cast hlt'
    have habove : above (blocks m x n y) rank < m := lt_of_le_of_lt (min_le_left _ _) hnext
    rw [getD_blocks_left 0 habove, sub_self, mul_zero, add_zero]

/-- A rank in the second block. -/
theorem interpolate_blocks_right (hm : (m : K) ≤ rank) (hr : rank ≤ (m + n - 1 : ℕ))
    (hpos : 0 < m + n) : interpolate (blocks m x n y) rank = y := by
  have hfloor : m ≤ ⌊rank⌋₊ := Nat.le_floor hm
  have hne : blocks m x n y ≠ [] := List.length_pos_iff.mp (by rwa [length_blocks])
  have hr' : rank ≤ ((blocks m x n y).length - 1 : ℕ) := by rwa [length_blocks]
  have hlt := floor_lt hne hr'
  have habove : above (blocks m x n y) rank < (blocks m x n y).length := above_lt hne
  rw [length_blocks] at hlt habove
  rw [interpolate, getD_blocks_right 0 hfloor hlt,
    getD_blocks_right 0 (hfloor.trans (floor_le_above hr')) habove, sub_self, mul_zero, add_zero]

/-- A rank that has left the first block. -/
theorem lt_interpolate_blocks (hxy : x < y) (h0 : 0 ≤ rank) (hm : (m : K) < rank + 1)
    (hr : rank ≤ (m + n - 1 : ℕ)) (hpos : 0 < m + n) : x < interpolate (blocks m x n y) rank := by
  rcases le_or_gt (m : K) rank with hle | hlt
  · rwa [interpolate_blocks_right hle hr hpos]
  · -- between the last entry of the first block and the first of the second
    have hfloor : ⌊rank⌋₊ < m := (Nat.floor_lt h0).mpr hlt
    have hm' : m ≤ ⌊rank⌋₊ + 1 := by
      have hlt' : (m : K) < (⌊rank⌋₊ + 1 + 1 : ℕ) := by
        push_cast
        linarith [Nat.lt_floor_add_one rank]
      have hlt'' : m < ⌊rank⌋₊ + 1 + 1 := by exact_mod_cast hlt'
      omega
    have hfrac : (⌊rank⌋₊ : K) < rank := by
      have hcast : (m : K) = ⌊rank⌋₊ + 1 := by exact_mod_cast (by omega : m = ⌊rank⌋₊ + 1)
      linarith
    have hlast : ⌊rank⌋₊ < m + n - 1 := by
      have hlt' : ((⌊rank⌋₊ : ℕ) : K) < (m + n - 1 : ℕ) := lt_of_lt_of_le hfrac hr
      exact_mod_cast hlt'
    have habove : above (blocks m x n y) rank = ⌊rank⌋₊ + 1 := by
      rw [above, length_blocks]
      omega
    rw [interpolate, habove, getD_blocks_left 0 hfloor, getD_blocks_right 0 hm' (by omega)]
    have hstep := mul_pos (sub_pos.mpr hfrac) (sub_pos.mpr hxy)
    linarith

/-- The value is that of the first block for the ranks up to its last entry. -/
theorem interpolate_blocks_eq_iff (hxy : x < y) (h0 : 0 ≤ rank) (hr : rank ≤ (m + n - 1 : ℕ))
    (hpos : 0 < m + n) : interpolate (blocks m x n y) rank = x ↔ rank + 1 ≤ m := by
  constructor
  · intro h
    by_contra hm
    exact (lt_interpolate_blocks hxy h0 (not_le.mp hm) hr hpos).ne' h
  · exact interpolate_blocks_left h0

end Statistics
