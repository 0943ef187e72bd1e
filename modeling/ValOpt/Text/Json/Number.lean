import ValOpt.Text.Json.Doc

/-!
# The numbers of `serde_json`

A `Number` is an unsigned integer, a negative one or a finite floating-point number.  The text of an
integer is given here.  That of a floating-point number is a parameter (`FloatText`): it reads back,
and it has a fraction or an exponent, so that it is not the text of an integer.
-/

namespace Text.Json

/-! ### Integers -/

/-- A natural number without leading zeros. -/
def natural : Format UInt8 NoDigit ℕ :=
  (Format.many isDigit digit starts_digit fun _ => trivial).refine
    (fun ds => if IsNumber ds then some (ofDigits ds) else none) toDigits (by
      intro n
      rw [if_pos (isNumber_toDigits n), ofDigits_toDigits])

theorem noDigit_nil : NoDigit [] := fun _ _ h => (nomatch h)

theorem starts_natural : natural.Starts (isDigit · = true) := by
  intro n
  obtain ⟨d, ds, hd⟩ := List.exists_cons_of_ne_nil (isNumber_toDigits n).1
  obtain ⟨c, t, hprint, hc⟩ := starts_digit d
  refine ⟨c, t ++ ds.flatMap digit.print, ?_, hc⟩
  change (toDigits n).flatMap digit.print = _
  rw [hd, List.flatMap_cons, hprint, List.cons_append]

theorem isDigit_digit (d : Fin 10) : ∀ c ∈ digit.print d, isDigit c = true := by
  have hall : ∀ d : Fin 10, (digit.print d).all isDigit = true := by decide
  exact List.all_eq_true.mp (hall d)

theorem isDigit_natural (n : ℕ) : ∀ c ∈ natural.print n, isDigit c = true := by
  intro c hc
  obtain ⟨d, -, hd⟩ := List.mem_flatMap.mp hc
  exact isDigit_digit d c hd

/-- A text that is one natural number. -/
def readNatural (w : List UInt8) : Option ℕ := natural.read (fun _ => false) w

@[simp] theorem readNatural_print (n : ℕ) : readNatural (natural.print n) = some n :=
  natural.read_print noDigit_nil _ n

/-- An integer that fits into `u64`, or into `i64` and is negative. -/
inductive Integer where
  | posInt (n : UInt64)
  | negInt (n : {n : ℕ // 0 < n ∧ n ≤ 2 ^ 63})

namespace Integer

def print : Integer → List UInt8
  | posInt n => natural.print n.toNat
  | negInt n => 0x2D :: natural.print n

/-- A text that is one integer in the range. -/
def read : List UInt8 → Option Integer
  | 0x2D :: w => (readNatural w).bind fun n =>
      if h : 0 < n ∧ n ≤ 2 ^ 63 then some (negInt ⟨n, h⟩) else none
  | w => (readNatural w).bind fun n =>
      if n < 2 ^ 64 then some (posInt (UInt64.ofNat n)) else none

/-- A text that starts like a natural number is read as one. -/
theorem read_natural (n : ℕ) (w : List UInt8) :
    read (natural.print n ++ w) = (readNatural (natural.print n ++ w)).bind fun n =>
      if n < 2 ^ 64 then some (posInt (UInt64.ofNat n)) else none := by
  obtain ⟨c, t, hprint, hc⟩ := starts_natural n
  rw [hprint, List.cons_append]
  unfold read
  split
  · next v h =>
    -- a digit is no minus
    cases h
    exact absurd hc (by decide)
  · rfl

theorem read_print (i : Integer) : read i.print = some i := by
  cases i with
  | posInt n =>
    have hread := read_natural n.toNat []
    rw [List.append_nil] at hread
    rw [print, hread, readNatural_print, Option.bind_some, if_pos n.toNat_lt, UInt64.ofNat_toNat]
  | negInt n =>
    rw [print, read, readNatural_print, Option.bind_some, dif_pos n.2]

theorem isNumeric_print (i : Integer) : ∀ c ∈ i.print, isNumeric c = true := by
  have hdigit : ∀ n, ∀ c ∈ natural.print n, isNumeric c = true := by
    intro n c hc
    simp only [isNumeric, isDigit_natural n c hc, Bool.true_or]
  intro c hc
  cases i with
  | posInt n => exact hdigit _ c hc
  | negInt n =>
    rcases List.mem_cons.mp hc with rfl | hc
    · decide
    · exact hdigit _ c hc

@[simp] theorem read_nil : read [] = none := rfl

end Integer

/-! ### Numbers -/

/-- How the finite numbers of a floating-point type are written and read, and which one an integer
is. -/
structure FloatText (F : Type) where
  isFinite : F → Bool
  print : {x : F // isFinite x = true} → List UInt8
  read : List UInt8 → Option {x : F // isFinite x = true}
  ofInteger : Integer → F
  read_print : ∀ x, read (print x) = some x
  read_nil : read [] = none
  numeric : ∀ x, ∀ c ∈ print x, isNumeric c = true
  notInteger : ∀ x, Integer.read (print x) = none

/-- `serde_json::Number`. -/
inductive Number {F : Type} (T : FloatText F) where
  | int (i : Integer)
  | float (x : {x : F // T.isFinite x = true})

namespace Number

variable {F : Type} {T : FloatText F}

def print : Number T → List UInt8
  | int i => i.print
  | float x => T.print x

/-- An integer, where the text is one that fits, and otherwise a floating-point number. -/
def read (w : List UInt8) : Option (Number T) :=
  match Integer.read w with
  | some i => some (int i)
  | none => (T.read w).map float

theorem read_print (n : Number T) : read n.print = some n := by
  cases n with
  | int i => rw [print, read, Integer.read_print]
  | float x => rw [print, read, T.notInteger, T.read_print, Option.map_some]

theorem isNumeric_print (n : Number T) : ∀ c ∈ n.print, isNumeric c = true := by
  cases n with
  | int i => exact i.isNumeric_print
  | float x => exact T.numeric x

theorem read_nil : read (T := T) [] = none := by
  rw [read, Integer.read_nil, T.read_nil, Option.map_none]

theorem print_ne_nil (n : Number T) : n.print ≠ [] := by
  intro h
  have hread := read_print n
  rw [h, read_nil] at hread
  cases hread

end Number

/-- The numbers of a document. -/
def numerals {F : Type} (T : FloatText F) : Numerals (Number T) where
  format := Format.word isNumeric Number.print Number.read Number.isNumeric_print Number.read_print
  numeric := Number.isNumeric_print
  starts := by
    intro n
    obtain ⟨c, t, hprint⟩ := List.exists_cons_of_ne_nil n.print_ne_nil
    exact ⟨c, t, hprint, n.isNumeric_print c (by rw [hprint]; exact List.mem_cons_self)⟩
  parse_other := by
    intro c t hc
    show (Number.read ((c :: t).takeWhile isNumeric)).map _ = none
    rw [List.takeWhile_cons_of_neg (by simp [hc]), Number.read_nil, Option.map_none]

/-! ### Tenths -/

/-- A number with one decimal. -/
def decimal : Format UInt8 (fun _ => True) (ℕ × Fin 10) :=
  natural.seq (digit.after [0x2E]) (by rintro d rest - c t ⟨⟩; rfl)

theorem numeric_decimal (p : ℕ × Fin 10) : ∀ c ∈ decimal.print p, isNumeric c = true := by
  have hdigit : ∀ c, isDigit c = true → isNumeric c = true := by
    intro c hc
    rw [isNumeric, hc]
    rfl
  intro c hc
  rcases List.mem_append.mp hc with hc | hc
  · exact hdigit c (isDigit_natural p.1 c hc)
  · rcases List.mem_cons.mp hc with rfl | hc
    · decide
    · exact hdigit c (isDigit_digit p.2 c hc)

/-- The point is not read. -/
theorem read_decimal (p : ℕ × Fin 10) : Integer.read (decimal.print p) = none := by
  have hpoint : NoDigit (0x2E :: digit.print p.2) := by
    rintro c t ⟨⟩
    rfl
  have hread : readNatural (natural.print p.1 ++ 0x2E :: digit.print p.2) = none := by
    rw [readNatural, Format.read, natural.parse_print p.1 _ hpoint]
    rfl
  have hinteger := Integer.read_natural p.1 (0x2E :: digit.print p.2)
  rw [hread, Option.bind_none] at hinteger
  exact hinteger

/-- Multiples of a tenth, and a number that is not finite, as floating-point numbers. -/
def tenths : FloatText (Option ℕ) where
  isFinite := Option.isSome
  print x := decimal.print (x.1.getD 0 / 10, Fin.ofNat 10 (x.1.getD 0))
  read w := (decimal.read (fun _ => false) w).map fun p => ⟨some (10 * p.1 + p.2), rfl⟩
  ofInteger
    | .posInt n => some (10 * n.toNat)
    | .negInt _ => none
  read_print := by
    rintro ⟨x, hx⟩
    obtain ⟨n, rfl⟩ := Option.isSome_iff_exists.mp hx
    rw [decimal.read_print trivial, Option.map_some]
    have hsum : 10 * (n / 10) + n % 10 = n := Nat.div_add_mod n 10
    exact congrArg some (Subtype.ext (congrArg some hsum))
  read_nil := rfl
  numeric x := numeric_decimal _
  notInteger x := read_decimal _

end Text.Json
