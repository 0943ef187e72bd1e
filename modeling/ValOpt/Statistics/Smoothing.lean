import Mathlib.Algebra.Order.Field.Basic
import Mathlib.Tactic.FieldSimp
import Mathlib.Tactic.Linarith
import Mathlib.Tactic.Positivity
import Mathlib.Tactic.Ring

/-!
# Exponential smoothing

`smooth w j ds` follows the entries of `ds`, started at `j`: each entry moves the value by the
`w`-th part of the way to it.  A bound of the start and of the entries is one of the value
(`le_smooth`, `smooth_le`).
-/

namespace Statistics

variable {K : Type*} [Field K]

/-- The value after a list of entries. -/
def smooth (w j : K) (ds : List K) : K := ds.foldl (fun j d => j + (d - j) / w) j

@[simp] theorem smooth_cons (w j d : K) (ds : List K) :
    smooth w j (d :: ds) = smooth w (j + (d - j) / w) ds := rfl

theorem smooth_neg (w j : K) (ds : List K) : smooth w (-j) (ds.map (- ·)) = -smooth w j ds := by
  induction ds generalizing j with
  | nil => rfl
  | cons d ds ih =>
    have hstep : -j + (-d - -j) / w = -(j + (d - j) / w) := by ring
    rw [List.map_cons, smooth_cons, smooth_cons, hstep, ih]

variable [LinearOrder K] [IsStrictOrderedRing K] {w j c : K} {ds : List K}

/-- One entry keeps the value above what both are above. -/
theorem le_step (hw : 1 ≤ w) (hj : c ≤ j) {d : K} (hd : c ≤ d) : c ≤ j + (d - j) / w := by
  have hpos : 0 < w := zero_lt_one.trans_le hw
  have hweighted : j + (d - j) / w - c = ((w - 1) * (j - c) + (d - c)) / w := by
    field_simp
    ring
  have hnonneg : 0 ≤ ((w - 1) * (j - c) + (d - c)) / w := by
    have hold := mul_nonneg (sub_nonneg.mpr hw) (sub_nonneg.mpr hj)
    have hnew := sub_nonneg.mpr hd
    positivity
  linarith

theorem le_smooth (hw : 1 ≤ w) (hj : c ≤ j) (h : ∀ d ∈ ds, c ≤ d) : c ≤ smooth w j ds := by
  induction ds generalizing j with
  | nil => exact hj
  | cons d ds ih =>
    rw [List.forall_mem_cons] at h
    exact ih (le_step hw hj h.1) h.2

theorem smooth_le (hw : 1 ≤ w) (hj : j ≤ c) (h : ∀ d ∈ ds, d ≤ c) : smooth w j ds ≤ c := by
  have hle : -c ≤ smooth w (-j) (ds.map (- ·)) := by
    apply le_smooth hw (neg_le_neg hj)
    rw [List.forall_mem_map]
    intro d hd
    exact neg_le_neg (h d hd)
  rw [smooth_neg] at hle
  exact neg_le_neg_iff.mp hle

end Statistics
