import ValOpt.Benchmarking.Models

/-!
# Arithmetic on the extended numbers

What `f64` computes from infinities and NaN.  Numbers are exact, so nothing is rounded and no sum
or product of numbers overflows, and the one zero is positive.
-/

namespace ValOpt.Extended

variable {K : Type} [Field K] [LinearOrder K]

/-! ### Operations -/

/-- A number with the sign of the value; that of NaN is zero. -/
def sign : Extended K → K
  | finite x => x
  | infinity => 1
  | negInfinity => -1
  | nan => 0

/-- The infinity with the sign of a number; for zero it is NaN. -/
def infinityOf (x : K) : Extended K :=
  if 0 < x then infinity else if x < 0 then negInfinity else nan

/-- `-self`. -/
def neg : Extended K → Extended K
  | finite x => finite (-x)
  | infinity => negInfinity
  | negInfinity => infinity
  | nan => nan

/-- `self + other`. -/
def add : Extended K → Extended K → Extended K
  | finite x, finite y => finite (x + y)
  | nan, _ => nan
  | _, nan => nan
  | infinity, negInfinity => nan
  | negInfinity, infinity => nan
  | infinity, _ => infinity
  | _, infinity => infinity
  | negInfinity, _ => negInfinity
  | _, negInfinity => negInfinity

/-- `self * other`. -/
def mul : Extended K → Extended K → Extended K
  | finite x, finite y => finite (x * y)
  | a, b => infinityOf (a.sign * b.sign)

/-- `self / other`. -/
def quotient : Extended K → Extended K → Extended K
  | finite x, finite y => div x y
  | finite _, infinity => finite 0
  | finite _, negInfinity => finite 0
  | infinity, finite y => if y < 0 then negInfinity else infinity
  | negInfinity, finite y => if y < 0 then infinity else negInfinity
  | _, _ => nan

/-- `self.abs()`. -/
def abs : Extended K → Extended K
  | finite x => finite |x|
  | nan => nan
  | _ => infinity

/-- `self < other`. -/
def less : Extended K → Extended K → Bool
  | finite x, finite y => x < y
  | finite _, infinity => true
  | negInfinity, finite _ => true
  | negInfinity, infinity => true
  | _, _ => false

/-- `self <= other`. -/
def atMost : Extended K → Extended K → Bool
  | nan, _ => false
  | _, nan => false
  | a, b => !b.less a

/-- `self.partial_cmp(&other)`. -/
def partialCmp : Extended K → Extended K → Option Ordering
  | nan, _ => none
  | _, nan => none
  | a, b => some (if a.less b then .lt else if b.less a then .gt else .eq)

/-- `self.is_finite()`. -/
def isFinite : Extended K → Bool
  | finite _ => true
  | _ => false

instance : Zero (Extended K) := ⟨finite 0⟩

instance : NatCast (Extended K) := ⟨fun n => finite n⟩

instance : Add (Extended K) := ⟨add⟩

instance : Sub (Extended K) := ⟨fun a b => add a (neg b)⟩

instance : Mul (Extended K) := ⟨mul⟩

instance : Div (Extended K) := ⟨quotient⟩

instance : LT (Extended K) := ⟨fun a b => a.less b = true⟩

instance : LE (Extended K) := ⟨fun a b => a.atMost b = true⟩

instance : DecidableLT (Extended K) := fun a b => inferInstanceAs (Decidable (a.less b = true))

instance : DecidableLE (Extended K) := fun a b => inferInstanceAs (Decidable (a.atMost b = true))

/-! ### Numbers among the extended numbers -/

variable {x y : K}

omit [LinearOrder K] in
@[simp] theorem finite_add (x y : K) : finite x + finite y = finite (x + y) := rfl

omit [LinearOrder K] in
@[simp] theorem finite_sub (x y : K) : finite x - finite y = finite (x - y) := by
  rw [sub_eq_add_neg]
  rfl

@[simp] theorem finite_mul (x y : K) : finite x * finite y = finite (x * y) := rfl

@[simp] theorem finite_div (x : K) {y : K} (hy : y ≠ 0) : finite x / finite y = finite (x / y) :=
  if_pos hy

@[simp] theorem abs_finite (x : K) : (finite x).abs = finite |x| := rfl

omit [Field K] in
@[simp] theorem finite_lt : finite x < finite y ↔ x < y := by
  show decide (x < y) = true ↔ x < y
  rw [decide_eq_true_eq]

omit [Field K] in
@[simp] theorem finite_le : finite x ≤ finite y ↔ x ≤ y := by
  show (!decide (y < x)) = true ↔ x ≤ y
  rw [Bool.not_eq_true', decide_eq_false_iff_not, not_lt]

omit [Field K] [LinearOrder K] in
/-- A value is finite if it is a number. -/
theorem isFinite_iff {a : Extended K} : a.isFinite = true ↔ ∃ x, a = finite x := by
  cases a <;> simp [isFinite]

/-- Only numbers are less than a number apart. -/
theorem abs_sub_lt_iff {a b : Extended K} {c : K} :
    (a - b).abs < finite c ↔ ∃ x y, a = finite x ∧ b = finite y ∧ |x - y| < c := by
  constructor
  · intro h
    cases a <;> cases b <;> first
      | exact ⟨_, _, rfl, rfl, by rwa [finite_sub, abs_finite, finite_lt] at h⟩
      | cases h
  · rintro ⟨x, y, rfl, rfl, h⟩
    rw [finite_sub, abs_finite, finite_lt]
    exact h

end ValOpt.Extended
