import Mathlib.Data.List.Induction
import Mathlib.Tactic.Common
import Mathlib.Tactic.IntervalCases
import Mathlib.Tactic.Ring

/-!
# Hexadecimal digits

`hexFixed w n` writes the `w` low hexadecimal digits of `n`, which is what `{:0wx}` prints for a
value below `16 ^ w`.  `fromStrRadix16` is `uN::from_str_radix(_, 16)` for an integer type with
`bound` values: an optional `+`, at least one digit of either case, no overflow.  What `hexFixed`
writes reads back (`fromStrRadix16_hexFixed`), and so does a row of such groups
(`parseDigits_append`).  It reads more than that: any number of digits of either case, with or
without a plus, as long as the number fits (`fromStrRadix16_eq_ok_iff`).
-/

namespace Text

/-- The lower-case digit of a value below sixteen. -/
def hexChar (d : ℕ) : Char := if d < 10 then Char.ofNat (48 + d) else Char.ofNat (87 + d)

/-- `char::to_digit(16)`. -/
def hexVal (c : Char) : Option ℕ :=
  if '0' ≤ c ∧ c ≤ '9' then some (c.toNat - 48)
  else if 'a' ≤ c ∧ c ≤ 'f' then some (c.toNat - 87)
  else if 'A' ≤ c ∧ c ≤ 'F' then some (c.toNat - 55)
  else none

theorem hexVal_hexChar {d : ℕ} (h : d < 16) : hexVal (hexChar d) = some d := by
  have hall : ∀ d ∈ List.range 16, hexVal (hexChar d) = some d := by decide
  exact hall d (List.mem_range.mpr h)

/-- The `w` low hexadecimal digits of `n`, highest first. -/
def hexFixed : (w n : ℕ) → List Char
  | 0, _ => []
  | w + 1, n => hexFixed w (n / 16) ++ [hexChar (n % 16)]

@[simp] theorem length_hexFixed (w n : ℕ) : (hexFixed w n).length = w := by
  induction w generalizing n with
  | zero => rfl
  | succ w ih => simp [hexFixed, ih]

/-- Every character `hexFixed` writes is the digit of a value below sixteen. -/
theorem mem_hexFixed {w n : ℕ} {c : Char} (h : c ∈ hexFixed w n) : ∃ d < 16, c = hexChar d := by
  induction w generalizing n with
  | zero => simp [hexFixed] at h
  | succ w ih =>
    rw [hexFixed, List.mem_append] at h
    rcases h with h | h
    · exact ih h
    · exact ⟨n % 16, Nat.mod_lt _ (by decide), by simpa using h⟩

/-- The errors of `from_str_radix`, under Rust's names (`core::num::IntErrorKind`). -/
inductive IntErrorKind where
  | empty
  | invalidDigit
  | posOverflow
  deriving DecidableEq, Repr

/-- The text `ParseIntError` prints. -/
def IntErrorKind.message : IntErrorKind → String
  | empty => "cannot find integer in empty string"
  | invalidDigit => "invalid digit found in string"
  | posOverflow => "number too large to fit in target type"

/-- Read hexadecimal digits onto `acc`, for a type with `bound` values.  A character that is no
digit is reported before an overflow. -/
def parseDigits (bound acc : ℕ) : List Char → Except IntErrorKind ℕ
  | [] => .ok acc
  | c :: cs =>
    match hexVal c with
    | none => .error .invalidDigit
    | some d => if acc * 16 + d < bound then parseDigits bound (acc * 16 + d) cs
                else .error .posOverflow

/-- `uN::from_str_radix(_, 16)` for an unsigned type with `bound` values. -/
def fromStrRadix16 (bound : ℕ) : List Char → Except IntErrorKind ℕ
  | [] => .error .empty
  | ['+'] => .error .invalidDigit
  | ['-'] => .error .invalidDigit
  | '+' :: cs => parseDigits bound 0 cs
  | cs => parseDigits bound 0 cs

theorem parseDigits_append {bound acc a : ℕ} {xs : List Char} (ys : List Char)
    (h : parseDigits bound acc xs = .ok a) :
    parseDigits bound acc (xs ++ ys) = parseDigits bound a ys := by
  induction xs generalizing acc with
  | nil =>
    rw [parseDigits, Except.ok.injEq] at h
    rw [h, List.nil_append]
  | cons c cs ih =>
    rw [List.cons_append, parseDigits]
    rw [parseDigits] at h
    cases hc : hexVal c with
    | none => simp [hc] at h
    | some d =>
      simp only [hc] at h ⊢
      split_ifs at h ⊢ with hlt
      exact ih h

/-- Reading the `w` digits of `n` onto `acc` shifts `acc` by `w` digits and adds `n`. -/
theorem parseDigits_hexFixed (bound w acc n : ℕ) (hn : n < 16 ^ w)
    (hb : acc * 16 ^ w + n < bound) :
    parseDigits bound acc (hexFixed w n) = .ok (acc * 16 ^ w + n) := by
  induction w generalizing n with
  | zero =>
    obtain rfl : n = 0 := by omega
    simp [hexFixed, parseDigits]
  | succ w ih =>
    have hpow : 16 ^ (w + 1) = 16 ^ w * 16 := pow_succ 16 w
    have hdiv : n / 16 < 16 ^ w := by omega
    have hsplit : (acc * 16 ^ w + n / 16) * 16 + n % 16 = acc * 16 ^ (w + 1) + n := by
      rw [hpow, Nat.add_mul, ← Nat.mul_assoc]
      omega
    have hprefix : parseDigits bound acc (hexFixed w (n / 16)) = .ok (acc * 16 ^ w + n / 16) :=
      ih (n / 16) hdiv (by omega)
    rw [hexFixed, parseDigits_append _ hprefix, parseDigits,
      hexVal_hexChar (Nat.mod_lt n (by decide))]
    simp only [hsplit, hb, ↓reduceIte, parseDigits]

/-- Numbers with the same digits are equal. -/
theorem hexFixed_inj {w m n : ℕ} (hm : m < 16 ^ w) (hn : n < 16 ^ w)
    (h : hexFixed w m = hexFixed w n) : m = n := by
  have hread := parseDigits_hexFixed (16 ^ w) w 0 m hm (by omega)
  rw [h, parseDigits_hexFixed (16 ^ w) w 0 n hn (by omega)] at hread
  have heq := Except.ok.inj hread
  omega

/-- Digits, at least one of them, are read as they stand: there is no sign to cut off. -/
theorem fromStrRadix16_eq_parseDigits {bound : ℕ} {cs : List Char} (hne : cs ≠ [])
    (hdig : ∀ c ∈ cs, ∃ d < 16, c = hexChar d) :
    fromStrRadix16 bound cs = parseDigits bound 0 cs := by
  have hsign : ∀ d ∈ List.range 16, hexChar d ≠ '+' ∧ hexChar d ≠ '-' := by decide
  cases cs with
  | nil => exact absurd rfl hne
  | cons c cs =>
    obtain ⟨d, hd, rfl⟩ := hdig c List.mem_cons_self
    obtain ⟨hplus, hminus⟩ := hsign d (List.mem_range.mpr hd)
    unfold fromStrRadix16
    split <;> simp_all

theorem fromStrRadix16_hexFixed {bound : ℕ} (w n : ℕ) (hn : n < 16 ^ (w + 1)) (hb : n < bound) :
    fromStrRadix16 bound (hexFixed (w + 1) n) = .ok n := by
  have hne : hexFixed (w + 1) n ≠ [] := by
    intro h
    have := congrArg List.length h
    simp at this
  rw [fromStrRadix16_eq_parseDigits hne fun c hc => mem_hexFixed hc,
    parseDigits_hexFixed _ _ _ _ hn (by omega)]
  simp

/-! ### What is read -/

/-- A digit of either case. -/
def IsHexDigit (c : Char) : Prop := ∃ d, hexVal c = some d

/-- The number that digits stand for, read onto `acc`. -/
def digitsValue (acc : ℕ) (cs : List Char) : ℕ :=
  cs.foldl (fun acc c => acc * 16 + (hexVal c).getD 0) acc

theorem hexVal_spec {c : Char} {d : ℕ} (h : hexVal c = some d) :
    d < 16 ∧ hexChar d = c.toLower := by
  have hrange : ∀ lo hi : Char, lo ≤ c ∧ c ≤ hi ↔ lo.toNat ≤ c.toNat ∧ c.toNat ≤ hi.toNat := by
    intro lo hi
    rfl
  have hc : Char.ofNat c.toNat = c := Char.ofNat_toNat c
  rw [hexVal] at h
  simp only [hrange] at h
  rw [← hc]
  generalize c.toNat = n at h
  split_ifs at h with h1 h2 h3
  · obtain ⟨hlo, hhi⟩ := h1
    obtain rfl := Option.some.inj h
    change 48 ≤ n at hlo
    change n ≤ 57 at hhi
    interval_cases n <;> decide
  · obtain ⟨hlo, hhi⟩ := h2
    obtain rfl := Option.some.inj h
    change 97 ≤ n at hlo
    change n ≤ 102 at hhi
    interval_cases n <;> decide
  · obtain ⟨hlo, hhi⟩ := h3
    obtain rfl := Option.some.inj h
    change 65 ≤ n at hlo
    change n ≤ 70 at hhi
    interval_cases n <;> decide

/-- A digit is neither a sign nor a hyphen. -/
theorem IsHexDigit.plain {c : Char} (h : IsHexDigit c) : c ≠ '-' ∧ c ≠ '+' := by
  have hminus : hexVal '-' = none := by decide
  have hplus : hexVal '+' = none := by decide
  obtain ⟨d, hd⟩ := h
  constructor
  · rintro rfl
    exact absurd (hminus.symm.trans hd) (by simp)
  · rintro rfl
    exact absurd (hplus.symm.trans hd) (by simp)

theorem le_digitsValue (acc : ℕ) (cs : List Char) : acc ≤ digitsValue acc cs := by
  induction cs generalizing acc with
  | nil => exact le_refl acc
  | cons c cs ih =>
    have hstep : acc ≤ acc * 16 + (hexVal c).getD 0 := by omega
    exact le_trans hstep (ih _)

/-- The digits are read if the number fits. -/
theorem parseDigits_eq_ok_iff {bound acc v : ℕ} {cs : List Char} (hacc : acc < bound) :
    parseDigits bound acc cs = .ok v ↔
      (∀ c ∈ cs, IsHexDigit c) ∧ digitsValue acc cs = v ∧ v < bound := by
  induction cs generalizing acc with
  | nil =>
    rw [parseDigits, digitsValue, List.foldl_nil, Except.ok.injEq]
    constructor
    · rintro rfl
      exact ⟨fun c hc => absurd hc List.not_mem_nil, rfl, hacc⟩
    · intro h
      exact h.2.1
  | cons c cs ih =>
    rw [parseDigits, List.forall_mem_cons, IsHexDigit, digitsValue, List.foldl_cons,
      ← digitsValue]
    cases hc : hexVal c with
    | none => simp
    | some d =>
      simp only [Option.getD_some]
      split
      next hlt =>
        rw [ih hlt]
        simp
      next hge =>
        have hle := le_digitsValue (acc * 16 + d) cs
        apply iff_of_false (by simp)
        intro h
        omega

/-- A number as `from_str_radix` takes it: any sign it has is a plus, and it fits. -/
def HexNumber (bound : ℕ) (part : List Char) (v : ℕ) : Prop :=
  ∃ digits, (part = digits ∨ part = '+' :: digits) ∧ digits ≠ [] ∧
    (∀ c ∈ digits, IsHexDigit c) ∧ digitsValue 0 digits = v ∧ v < bound

theorem HexNumber.lt {bound v : ℕ} {part : List Char} (h : HexNumber bound part v) : v < bound := by
  obtain ⟨-, -, -, -, -, hlt⟩ := h
  exact hlt

theorem HexNumber.hyphen_not_mem {bound v : ℕ} {part : List Char} (h : HexNumber bound part v) :
    '-' ∉ part := by
  obtain ⟨digits, hpart, -, hdig, -⟩ := h
  intro hmem
  rcases hpart with rfl | rfl
  · exact (hdig '-' hmem).plain.1 rfl
  · rcases List.mem_cons.mp hmem with heq | hmem
    · exact absurd heq (by decide)
    · exact (hdig '-' hmem).plain.1 rfl

theorem fromStrRadix16_eq_ok_iff {bound v : ℕ} {part : List Char} (hbound : 0 < bound) :
    fromStrRadix16 bound part = .ok v ↔ HexNumber bound part v := by
  constructor
  · intro h
    unfold fromStrRadix16 at h
    split at h
    · simp at h
    · simp at h
    · simp at h
    next cs hcs =>
      obtain ⟨hdig, hval, hlt⟩ := (parseDigits_eq_ok_iff hbound).mp h
      exact ⟨cs, .inr rfl, by simpa using hcs, hdig, hval, hlt⟩
    next hempty _ _ _ =>
      obtain ⟨hdig, hval, hlt⟩ := (parseDigits_eq_ok_iff hbound).mp h
      exact ⟨part, .inl rfl, hempty, hdig, hval, hlt⟩
  · rintro ⟨digits, hpart, hne, hdig, hval, hlt⟩
    have hread : parseDigits bound 0 digits = .ok v :=
      (parseDigits_eq_ok_iff hbound).mpr ⟨hdig, hval, hlt⟩
    obtain ⟨c, cs, rfl⟩ := List.exists_cons_of_ne_nil hne
    obtain ⟨hminus, hplus⟩ := (hdig c List.mem_cons_self).plain
    rcases hpart with rfl | rfl
    · rw [← hread]
      unfold fromStrRadix16
      split <;> simp_all
    · rw [← hread]
      unfold fromStrRadix16
      split <;> simp_all

/-- Only the low digits are written. -/
theorem hexFixed_mod (w n : ℕ) : hexFixed w (n % 16 ^ w) = hexFixed w n := by
  induction w generalizing n with
  | zero => rfl
  | succ w ih =>
    have hdiv : n % 16 ^ (w + 1) / 16 = n / 16 % 16 ^ w := by
      rw [pow_succ, Nat.mod_mul_left_div_self]
    have hlow : n % 16 ^ (w + 1) % 16 = n % 16 :=
      Nat.mod_mod_of_dvd n (dvd_pow_self 16 (Nat.succ_ne_zero w))
    rw [hexFixed, hexFixed, hdiv, hlow, ih]

/-- The high digits, then the low ones. -/
theorem hexFixed_add (w k n : ℕ) :
    hexFixed (w + k) n = hexFixed w (n / 16 ^ k) ++ hexFixed k n := by
  induction k generalizing n with
  | zero => rw [pow_zero, Nat.div_one, hexFixed, List.append_nil, Nat.add_zero]
  | succ k ih =>
    rw [← Nat.add_assoc, hexFixed, ih, hexFixed, Nat.div_div_eq_div_mul, List.append_assoc,
      pow_succ, Nat.mul_comm 16]

/-- Digits that are read are written back, in lower case. -/
theorem hexFixed_digitsValue {cs : List Char} (h : ∀ c ∈ cs, IsHexDigit c) :
    digitsValue 0 cs < 16 ^ cs.length ∧
      hexFixed cs.length (digitsValue 0 cs) = cs.map Char.toLower := by
  induction cs using List.reverseRecOn with
  | nil => exact ⟨by decide, rfl⟩
  | append_singleton cs c ih =>
    obtain ⟨hlt, hwrite⟩ := ih fun c hc => h c (List.mem_append_left _ hc)
    obtain ⟨d, hd⟩ := h c (by simp)
    obtain ⟨hd16, hlower⟩ := hexVal_spec hd
    have hvalue : digitsValue 0 (cs ++ [c]) = digitsValue 0 cs * 16 + d := by
      rw [digitsValue, List.foldl_append, List.foldl_cons, List.foldl_nil, hd]
      rfl
    have hdiv : (digitsValue 0 cs * 16 + d) / 16 = digitsValue 0 cs := by omega
    have hmod : (digitsValue 0 cs * 16 + d) % 16 = d := by omega
    rw [hvalue, List.length_append, List.length_singleton, pow_succ]
    constructor
    · omega
    · rw [hexFixed, hdiv, hmod, hwrite, hlower, List.map_append, List.map_singleton]

end Text
