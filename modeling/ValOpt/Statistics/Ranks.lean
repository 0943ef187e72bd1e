import Mathlib.Algebra.BigOperators.Group.List.Basic
import Mathlib.Algebra.Order.Field.Basic
import Mathlib.Data.List.ProdSigma
import Mathlib.Data.List.TakeWhile
import Mathlib.Tactic.FieldSimp
import Mathlib.Tactic.Linarith
import Mathlib.Tactic.Ring
import ValOpt.Statistics.Basic

/-!
# Ranks, pairs and ties

The mid-rank of a value in a list is half way between the ranks that its copies take in the sorted
list.  The sum of the mid-ranks of one part of a list counts the pairs of an entry of this part and
a smaller one of the other part, where a tie counts one half (`sum_midRank`).  These pairs and those
the other way round are all pairs (`pairsAbove_add_swap`).

For the groups of ties of a list with `n` entries, the sum of `t ^ 3 - t` over their sizes is
`n ^ 3 - n` if there is one group, and otherwise falls short of that by at least `3 * n * (n - 1)`
(`tieSum_add_le`).
-/

namespace Statistics

/-! ### Pairs -/

section Pairs

variable {α : Type*}

theorem countP_product {β : Type*} (p : α × β → Bool) (a : List α) (b : List β) :
    (a ×ˢ b).countP p = (a.map fun x => b.countP fun y => p (x, y)).sum := by
  induction a with
  | nil => rfl
  | cons x a ih =>
    rw [List.product_cons, List.countP_append, List.countP_map, ih, List.map_cons, List.sum_cons]
    rfl

/-- Pairs may be counted from either side. -/
theorem countP_product_swap {β : Type*} (p : α × β → Bool) (a : List α) (b : List β) :
    (a ×ˢ b).countP p = (b ×ˢ a).countP fun q => p (q.2, q.1) := by
  induction a with
  | nil => rw [List.product_nil, List.nil_product, List.countP_nil, List.countP_nil]
  | cons x a ih =>
    have hcons : ∀ b : List β, (b ×ˢ (x :: a)).countP (fun q => p (q.2, q.1)) =
        b.countP (fun y => p (x, y)) + (b ×ˢ a).countP fun q => p (q.2, q.1) := by
      intro b
      induction b with
      | nil => rfl
      | cons y b ihb =>
        rw [List.product_cons, List.product_cons, List.countP_append, List.countP_append, ihb,
          List.map_cons, List.countP_cons, List.countP_cons]
        dsimp only
        omega
    rw [List.product_cons, List.countP_append, List.countP_map, ih, hcons]
    rfl

theorem countP_product_perm {β : Type*} {a a' : List α} {b b' : List β} (ha : a.Perm a')
    (hb : b.Perm b') (p : α × β → Bool) : (a ×ˢ b).countP p = (a' ×ˢ b').countP p := by
  rw [countP_product, countP_product, (ha.map _).sum_eq]
  congr 1
  apply List.map_congr_left
  intro x _
  exact hb.countP_eq _

variable [LinearOrder α]

/-- The pairs whose second entry is the greater one, and half of the pairs of equal entries. -/
def pairsAbove (K : Type*) [Field K] (a b : List α) : K :=
  ((a ×ˢ b).countP fun p => p.1 < p.2) + ((a ×ˢ b).countP fun p => p.1 = p.2) / 2

variable {K : Type*} [Field K]

theorem pairsAbove_perm {a a' b b' : List α} (ha : a.Perm a') (hb : b.Perm b') :
    pairsAbove K a b = pairsAbove K a' b' := by
  rw [pairsAbove, pairsAbove, countP_product_perm ha hb, countP_product_perm ha hb]

/-- Every pair counts once, from the one side or the other or half from each. -/
theorem pairsAbove_add_swap [CharZero K] (a b : List α) :
    pairsAbove K a b + pairsAbove K b a = a.length * b.length := by
  have htri : ∀ l : List (α × α), l.countP (fun p => p.1 < p.2) + l.countP (fun p => p.1 = p.2) +
      l.countP (fun p => p.2 < p.1) = l.length := by
    intro l
    induction l with
    | nil => rfl
    | cons p l ih =>
      rw [List.countP_cons, List.countP_cons, List.countP_cons, List.length_cons, ← ih]
      rcases lt_trichotomy p.1 p.2 with hlt | heq | hgt
      · simp [hlt, hlt.ne, hlt.not_gt]
        omega
      · simp [heq]
        omega
      · simp [hgt, hgt.ne', hgt.not_gt]
        omega
  have hall := htri (a ×ˢ b)
  have heq : (b ×ˢ a).countP (fun p => p.1 = p.2) = (a ×ˢ b).countP fun p => p.1 = p.2 := by
    rw [countP_product_swap]
    simp only [eq_comm]
  rw [pairsAbove, pairsAbove, heq, countP_product_swap _ b a]
  rw [List.length_product] at hall
  have hcast : (((a ×ˢ b).countP fun p => p.1 < p.2 : ℕ) : K) +
      ((a ×ˢ b).countP fun p => p.1 = p.2 : ℕ) + ((a ×ˢ b).countP fun p => p.2 < p.1 : ℕ) =
        a.length * b.length := by
    exact_mod_cast hall
  rw [← hcast]
  ring

/-- Half of the pairs of a list with itself. -/
theorem pairsAbove_self [CharZero K] (a : List α) :
    pairsAbove K a a = (a.length : K) * a.length / 2 := by
  have h := pairsAbove_add_swap (K := K) a a
  rw [← h]
  ring

end Pairs

/-! ### Copies of an entry -/

section Scan

variable {α : Type*} {p : α → Bool} {x : α} {xs : List α}

/-- A scan for the copies of an entry reads nothing else. -/
theorem takeWhile_eq_replicate (hp : ∀ y ∈ xs, p y ↔ y = x) :
    xs.takeWhile p = List.replicate (xs.takeWhile p).length x := by
  rw [List.eq_replicate_iff]
  refine ⟨rfl, ?_⟩
  intro y hy
  exact (hp y (List.takeWhile_subset p hy)).mp (List.mem_takeWhile_imp hy)

/-- In a sorted list, it leaves none of them. -/
theorem lt_of_mem_dropWhile [LinearOrder α] (hs : (x :: xs).Pairwise (· ≤ ·))
    (hp : ∀ y ∈ xs, p y ↔ y = x) : ∀ y ∈ xs.dropWhile p, x < y := by
  intro y hy
  rw [List.pairwise_cons] at hs
  have hne : xs.dropWhile p ≠ [] := List.ne_nil_of_mem hy
  have hsub := List.dropWhile_sublist p (l := xs)
  have hhead := hsub.subset (List.head_mem hne)
  -- what stopped the scan is no copy, and the rest is not below it
  have hlt : x < (xs.dropWhile p).head hne := by
    apply lt_of_le_of_ne (hs.1 _ hhead)
    intro heq
    exact absurd ((hp _ hhead).mpr heq.symm) (by simp [List.head_dropWhile_not p hne])
  have hsorted := hs.2.sublist hsub
  rw [← List.cons_head_tail hne, List.pairwise_cons] at hsorted
  rw [← List.cons_head_tail hne, List.mem_cons] at hy
  rcases hy with rfl | hy
  · exact hlt
  · exact hlt.trans_le (hsorted.1 y hy)

end Scan

/-! ### Mid-ranks -/

section Ranks

variable {α : Type*} [LinearOrder α] {K : Type*} [Field K]

/-- The mid-rank of a value among the entries. -/
def midRank (K : Type*) [Field K] (xs : List α) (x : α) : K :=
  xs.countP (· < x) + (xs.countP (· = x) + 1) / 2

theorem midRank_perm {xs ys : List α} (h : xs.Perm ys) (x : α) :
    midRank K xs x = midRank K ys x := by
  rw [midRank, midRank, h.countP_eq, h.countP_eq]

/-- The copies of the least entry come first. -/
theorem midRank_replicate_append_self (n : ℕ) {x : α} {xs : List α} (h : ∀ y ∈ xs, x < y) :
    midRank K (List.replicate n x ++ xs) x = (n + 1) / 2 := by
  have hlt : xs.countP (· < x) = 0 := by
    rw [List.countP_eq_zero]
    intro y hy
    simpa using (h y hy).le
  have heq : xs.countP (· = x) = 0 := by
    rw [List.countP_eq_zero]
    intro y hy
    simpa using (h y hy).ne'
  rw [midRank, List.countP_append, List.countP_append, hlt, heq]
  simp [List.countP_replicate]

/-- Behind the copies of the least entry, the ranks go on. -/
theorem midRank_replicate_append (n : ℕ) {x y : α} (xs : List α) (h : x < y) :
    midRank K (List.replicate n x ++ xs) y = n + midRank K xs y := by
  rw [midRank, midRank, List.countP_append, List.countP_append, List.countP_replicate,
    List.countP_replicate]
  simp [h, h.ne, add_assoc]

/-- **The sum of the ranks of one part** of the entries. -/
theorem sum_midRank [CharZero K] (a b : List α) :
    (a.map (midRank K (a ++ b))).sum =
      (a.length : K) * (a.length + 1) / 2 + pairsAbove K b a := by
  have hsum : ∀ l : List α, (l.map (midRank K (a ++ b))).sum =
      pairsAbove K a l + pairsAbove K b l + l.length / 2 := by
    intro l
    -- the rank of one entry counts its pairs with the entries of both parts
    simp only [pairsAbove, countP_product_swap _ _ l]
    induction l with
    | nil => simp
    | cons x l ih =>
      rw [List.map_cons, List.sum_cons, ih, midRank, List.countP_append, List.countP_append]
      simp only [List.product_cons, List.countP_append, List.countP_map, List.length_cons,
        Function.comp_def]
      push_cast
      ring
  rw [hsum, pairsAbove_self]
  ring

end Ranks

/-! ### Ties -/

section Ties

variable {K : Type*} [Field K]

/-- The correction for a group of ties. -/
def tieTerm (t : K) : K := t ^ 3 - t

theorem tieTerm_eq (t : K) : tieTerm t = (t + 1) * (t * (t - 1)) := by
  rw [tieTerm]
  ring

theorem tieTerm_add (s t : K) :
    tieTerm (s + t) = tieTerm s + tieTerm t + 3 * (s * t * (s + t)) := by
  rw [tieTerm, tieTerm, tieTerm]
  ring

variable [LinearOrder K] [IsStrictOrderedRing K]

theorem tieSum_le (groups : List ℕ) :
    (groups.map fun t : ℕ => tieTerm (t : K)).sum ≤ tieTerm ((groups.sum : ℕ) : K) := by
  induction groups with
  | nil => simp [tieTerm]
  | cons t groups ih =>
    have hcross : (0 : K) ≤ 3 * (t * (groups.sum : ℕ) * (t + (groups.sum : ℕ))) := by positivity
    rw [List.map_cons, List.sum_cons, List.sum_cons, Nat.cast_add, tieTerm_add]
    linarith

/-- With two groups or more, something is missing. -/
theorem tieSum_add_le {groups : List ℕ} (hpos : ∀ t ∈ groups, 0 < t) (htwo : 2 ≤ groups.length) :
    (groups.map fun t : ℕ => tieTerm (t : K)).sum +
      3 * ((groups.sum : ℕ) * ((groups.sum : ℕ) - 1)) ≤ tieTerm ((groups.sum : ℕ) : K) := by
  match groups, htwo with
  | t :: s :: groups, _ =>
    have ht : (1 : K) ≤ t := by exact_mod_cast hpos t List.mem_cons_self
    have hs : 0 < s := hpos s (List.mem_cons_of_mem t List.mem_cons_self)
    have hrest : (1 : K) ≤ ((s :: groups).sum : ℕ) := by
      rw [List.sum_cons]
      exact_mod_cast Nat.le_add_right_of_le hs
    have hle := tieSum_le (K := K) (s :: groups)
    rw [List.map_cons, List.sum_cons, List.sum_cons, Nat.cast_add, tieTerm_add]
    generalize (((s :: groups).sum : ℕ) : K) = S at *
    -- the product of two positive numbers is their sum less one at least
    have hprod : (0 : K) ≤ (t - 1) * (S - 1) * (t + S) := by
      apply mul_nonneg (mul_nonneg _ _) <;> linarith
    linarith

end Ties

end Statistics
