import Mathlib.Data.Fin.VecNotation
import Mathlib.Data.Fintype.Basic
import Mathlib.Data.Nat.Digits.Lemmas
import ValOpt.Text.Format

/-!
# JSON as `serde_json` writes it

Formats for the values of a record type, on the bytes of a UTF-8 text: strings with the escapes
that `serde_json` writes, unsigned numbers, booleans, options, lists, and objects with their members
in order.  `Layout.compact` is what `to_vec` writes, `Layout.pretty` what `to_string_pretty` writes,
with two blanks for each level.  The readers accept what the writers write; members in another order
or unknown ones are not read.
-/

namespace Text.Json

variable {D : List UInt8 → Prop} {α β : Type}

/-! ### Numbers -/

def isDigit (c : UInt8) : Bool := 0x30 ≤ c && c ≤ 0x39

/-- A text that does not go on with a digit. -/
def NoDigit (rest : List UInt8) : Prop := ∀ c t, rest = c :: t → isDigit c = false

/-- One decimal digit. -/
def digit : Format UInt8 (fun _ => True) (Fin 10) :=
  Format.oneOf (fun d => UInt8.ofNat (0x30 + d)) (by decide)

theorem starts_digit : digit.Starts (isDigit · = true) := by
  intro d
  refine ⟨UInt8.ofNat (0x30 + d), [], rfl, ?_⟩
  revert d
  decide

/-- The base of the digits is not zero. -/
instance neZero_ten : NeZero (10 : ℕ) := ⟨by decide⟩

/-- The digits of a number, highest first. -/
def toDigits (n : ℕ) : List (Fin 10) :=
  if n = 0 then [0] else (Nat.digits 10 n).reverse.map (Fin.ofNat 10)

def ofDigits (ds : List (Fin 10)) : ℕ := Nat.ofDigits 10 (ds.reverse.map Fin.val)

/-- There is a digit, and no zero in front of others. -/
def IsNumber (ds : List (Fin 10)) : Prop := ds ≠ [] ∧ (ds.head? = some 0 → ds.length = 1)

instance (ds : List (Fin 10)) : Decidable (IsNumber ds) := inferInstanceAs (Decidable (_ ∧ _))

theorem ofDigits_toDigits (n : ℕ) : ofDigits (toDigits n) = n := by
  unfold ofDigits toDigits
  by_cases hn : n = 0
  · simp [hn]
  · rw [if_neg hn, ← List.map_reverse, List.reverse_reverse, List.map_map]
    have hdigits : (Nat.digits 10 n).map (Fin.val ∘ Fin.ofNat 10) = Nat.digits 10 n := by
      conv_rhs => rw [← List.map_id (Nat.digits 10 n)]
      apply List.map_congr_left
      intro d hd
      exact Nat.mod_eq_of_lt (Nat.digits_lt_base (by decide) hd)
    rw [hdigits, Nat.ofDigits_digits]

theorem isNumber_toDigits (n : ℕ) : IsNumber (toDigits n) := by
  unfold toDigits
  by_cases hn : n = 0
  · rw [if_pos hn]
    decide
  · rw [if_neg hn]
    have hne : Nat.digits 10 n ≠ [] := Nat.digits_ne_nil_iff_ne_zero.mpr hn
    refine ⟨by simpa using hne, fun hhead => ?_⟩
    -- the first digit is the last of Mathlib's list, which is not zero
    have hlast := Nat.getLast_digit_ne_zero 10 hn
    have hlt := Nat.digits_lt_base (b := 10) (by decide) (List.getLast_mem hne)
    rw [List.head?_map, List.head?_reverse, List.getLast?_eq_some_getLast hne, Option.map_some,
      Option.some.injEq, Fin.ext_iff] at hhead
    have hzero : (Nat.digits 10 n).getLast hne % 10 = 0 := hhead
    rw [Nat.mod_eq_of_lt hlt] at hzero
    exact absurd hzero hlast

/-- A `u32`. -/
def u32 : Format UInt8 NoDigit UInt32 :=
  (Format.many isDigit digit starts_digit fun _ => trivial).refine
    (fun ds => if IsNumber ds ∧ ofDigits ds < 2 ^ 32 then some (UInt32.ofNat (ofDigits ds))
      else none)
    (fun v => toDigits v.toNat) (by
      intro v
      rw [ofDigits_toDigits, if_pos ⟨isNumber_toDigits _, v.toNat_lt⟩, UInt32.ofNat_toNat])

theorem starts_u32 : u32.Starts (isDigit · = true) := by
  intro v
  obtain ⟨d, ds, hd⟩ := List.exists_cons_of_ne_nil (isNumber_toDigits v.toNat).1
  obtain ⟨c, t, hprint, hc⟩ := starts_digit d
  refine ⟨c, t ++ ds.flatMap digit.print, ?_, hc⟩
  change (toDigits v.toNat).flatMap digit.print = _
  rw [hd, List.flatMap_cons, hprint, List.cons_append]

/-! ### Strings -/

/-- One hexadecimal digit. -/
def hexDigit : Format UInt8 D (Fin 16) :=
  Format.oneOf (fun d => if d < 10 then UInt8.ofNat (0x30 + d) else UInt8.ofNat (0x57 + d))
    (by decide)

/-- The bytes with an escape of two characters. -/
def shortBytes : List UInt8 := [0x22, 0x5C, 0x08, 0x09, 0x0A, 0x0C, 0x0D]

/-- The letters of these escapes. -/
def shortLetter : Fin 7 → UInt8 := ![0x22, 0x5C, 0x62, 0x74, 0x6E, 0x66, 0x72]

/-- A byte that stands for itself. -/
def plain : Format UInt8 D {c : UInt8 // c ≠ 0x5C} :=
  Format.symbol.refine (fun c => if h : c ≠ 0x5C then some ⟨c, h⟩ else none) (·.1)
    (fun c => by simp [c.2])

/-- How a byte of a string is written: as `\u00` with two digits, with a letter, or as it is. -/
abbrev Written : Type := ((Fin 16 × Fin 16) ⊕ Fin 7) ⊕ {c : UInt8 // c ≠ 0x5C}

/-- The byte that is meant. -/
def Written.byte : Written → Option UInt8
  | .inl (.inl (h, l)) => some (UInt8.ofNat (16 * h + l))
  | .inl (.inr i) => shortBytes[i.val]?
  | .inr c => if c.1 = 0x22 ∨ c.1 < 0x20 then none else some c.1

/-- The way the writer takes. -/
def Written.of (c : UInt8) : Written :=
  match (List.finRange 7).find? fun i => shortBytes[i.val]? = some c with
  | some i => .inl (.inr i)
  | none =>
    if h : c < 0x20 ∨ c = 0x5C then
      .inl (.inl (Fin.ofNat 16 (c.toNat / 16), Fin.ofNat 16 (c.toNat % 16)))
    else .inr ⟨c, fun hc => h (.inr hc)⟩

theorem Written.byte_of (c : UInt8) : (Written.of c).byte = some c := by
  have hall : ∀ n : Fin 256, (Written.of (UInt8.ofNat n)).byte = some (UInt8.ofNat n) := by
    decide +kernel
  simpa using hall ⟨c.toNat, c.toNat_lt⟩

/-- The two digits behind `\u00`. -/
def twoDigits : Format UInt8 (fun _ => True) (Fin 16 × Fin 16) :=
  Format.seq (D := fun _ => True) hexDigit hexDigit fun _ _ _ => trivial

/-- What stands behind a backslash. -/
def escape : Format UInt8 (fun _ => True) ((Fin 16 × Fin 16) ⊕ Fin 7) :=
  Format.branch (· == 0x75) (twoDigits.after [0x75, 0x30, 0x30])
    (Format.oneOf shortLetter (by decide)) (Format.starts_after (by rfl) _ _)
    (fun i => ⟨shortLetter i, [], rfl, by revert i; decide⟩)

def written : Format UInt8 (fun _ => True) Written :=
  Format.branch (· == 0x5C) (escape.after [0x5C]) plain (Format.starts_after (by rfl) _ _)
    (fun c => ⟨c.1, [], rfl, by simpa using c.2⟩)

/-- One byte of a string, escaped where JSON asks for it. -/
def stringByte : Format UInt8 (fun _ => True) UInt8 :=
  written.refine Written.byte Written.of Written.byte_of

/-- No byte is written so that it would end the string. -/
theorem starts_stringByte : stringByte.Starts ((· != 0x22) · = true) := by
  intro c
  have hall : ∀ n : Fin 256,
      (stringByte.print (UInt8.ofNat n)).head?.any (· != 0x22) = true := by decide +kernel
  have hc := hall ⟨c.toNat, c.toNat_lt⟩
  simp only [UInt8.ofNat_toNat] at hc
  cases hprint : stringByte.print c with
  | nil =>
    rw [hprint] at hc
    cases hc
  | cons h t =>
    rw [hprint] at hc
    exact ⟨h, t, rfl, hc⟩

/-- The bytes of a string up to the closing quote. -/
def stringBytes : Format UInt8 D (List UInt8) :=
  ((Format.many (· != 0x22) stringByte starts_stringByte fun _ => trivial).seq
    (Format.lit [0x22]) (by rintro _ rest _ c t ⟨⟩; rfl)).refine
      (fun p => some p.1) (fun bs => (bs, ())) fun _ => rfl

/-- A string. -/
def str : Format UInt8 D String :=
  (stringBytes.after [0x22]).refine (fun bs => String.fromUTF8? ⟨bs.toArray⟩)
    (fun s => s.toUTF8.data.toList) (by
      intro s
      rw [Array.toArray_toList]
      exact dif_pos s.isValidUTF8)

theorem starts_str : (str (D := D)).Starts (· = 0x22) := fun _ => ⟨_, _, rfl, rfl⟩

/-! ### Literals and options -/

/-- `true` or `false`. -/
def bool : Format UInt8 D Bool :=
  (Format.branch (· == 0x74) (Format.lit [0x74, 0x72, 0x75, 0x65])
    (Format.lit [0x66, 0x61, 0x6C, 0x73, 0x65]) (fun _ => ⟨_, _, rfl, rfl⟩)
    (fun _ => ⟨_, _, rfl, rfl⟩)).refine (fun p => some p.isLeft)
      (fun b => if b then .inl () else .inr ()) (by decide)

theorem starts_bool : (bool (D := D)).Starts fun c => c = 0x74 ∨ c = 0x66
  | true => ⟨_, _, rfl, .inl rfl⟩
  | false => ⟨_, _, rfl, .inr rfl⟩

/-- `null`, or a value that does not start like it. -/
def opt (f : Format UInt8 D α) (hf : f.Starts ((· == 0x6E) · = false)) :
    Format UInt8 D (Option α) :=
  (Format.branch (· == 0x6E) (Format.lit [0x6E, 0x75, 0x6C, 0x6C]) f
    (fun _ => ⟨_, _, rfl, rfl⟩) hf).refine (fun p => some p.getRight?)
      (fun o => o.elim (.inl ()) .inr) (by rintro (_ | a) <;> rfl)

/-! ### Lists and objects -/

inductive Layout where
  | compact
  | pretty

namespace Layout

/-- What separates the parts of a value at depth `d`. -/
def newline (l : Layout) (d : ℕ) : List UInt8 :=
  match l with
  | compact => []
  | pretty => 0x0A :: List.replicate (2 * d) 0x20

/-- What stands between a key and its value. -/
def colon : Layout → List UInt8
  | compact => [0x3A]
  | pretty => [0x3A, 0x20]

end Layout

/-- The first item and the others, taken apart and put together again. -/
theorem elim_firstItem (as : List α) :
    some (Sum.elim (fun _ : Unit => []) (fun q : α × List α × Unit => q.1 :: q.2.1)
      (match as with
      | [] => .inl ()
      | a :: as => .inr (a, as, ()))) = some as := by
  cases as with
  | nil => rfl
  | cons a as => rfl

variable (l : Layout) (d : ℕ)

/-- The line break in front of a part leaves open how the part starts, or is a line feed. -/
theorem starts_newline {p : UInt8 → Prop} (hline : p 0x0A) {f : Format UInt8 D α}
    (hf : f.Starts p) : (f.after (l.newline d)).Starts p := by
  intro a
  cases l with
  | compact => exact hf a
  | pretty => exact ⟨0x0A, _, rfl, hline⟩

/-- The items of a list behind the first. -/
def items (f : Format UInt8 (fun _ => True) α) :
    Format UInt8 (fun rest => ∀ c t, rest = c :: t → (c == 0x2C) = false) (List α) :=
  Format.many (· == 0x2C) (f.after (0x2C :: l.newline (d + 1))) (Format.starts_after (by rfl) _ _)
    fun _ => trivial

/-- The end of a list or an object. -/
def closing (c : UInt8) : Format UInt8 D Unit := Format.lit (l.newline d ++ [c])

theorem starts_closing (c : UInt8) :
    (closing l d c : Format UInt8 D Unit).Starts fun c' => c' = 0x0A ∨ c' = c := by
  intro _
  cases l with
  | compact => exact ⟨c, [], rfl, .inr rfl⟩
  | pretty => exact ⟨0x0A, _, rfl, .inl rfl⟩

theorem closed_closing (c : UInt8) : (closing l d c : Format UInt8 D Unit).Closed :=
  Format.closed_lit (by simp)

/-- The items of a list behind the first, and its end. -/
def listTail (f : Format UInt8 (fun _ => True) α) : Format UInt8 D (List α × Unit) :=
  (items l d f).seq (closing l d 0x5D) (by
    rintro ⟨⟩ rest _ c t h
    cases l <;> cases h <;> rfl)

/-- The items of a list that has some, and its end. -/
def listBody (f : Format UInt8 (fun _ => True) α) : Format UInt8 D (α × (List α × Unit)) :=
  Format.seq (D := fun _ => True) (f.after (l.newline (d + 1))) (listTail l d f)
    fun _ _ _ => trivial

theorem starts_listBody {f : Format UInt8 (fun _ => True) α}
    (hf : f.Starts ((· == 0x5D) · = false)) :
    (listBody (D := D) l d f).Starts ((· == 0x5D) · = false) :=
  Format.Starts.seq (starts_newline l (d + 1) (by rfl) hf) _ _

/-- A list at depth `d`. -/
def list (f : Format UInt8 (fun _ => True) α) (hf : f.Starts ((· == 0x5D) · = false)) :
    Format UInt8 D (List α) :=
  ((Format.branch (· == 0x5D) (Format.lit [0x5D]) (listBody l d f) (fun _ => ⟨_, _, rfl, rfl⟩)
    (starts_listBody l d hf)).refine
      (fun p => some (p.elim (fun _ => []) fun q => q.1 :: q.2.1))
      (fun | [] => .inl () | a :: as => .inr (a, as, ()))
      elim_firstItem).after [0x5B]

/-- The members of an object from some place on, and its end.  They start with a separator, and
whoever reads them knows where they end. -/
structure Members (D : List UInt8 → Prop) (α : Type) where
  format : Format UInt8 D α
  noDigit : format.Starts (isDigit · = false)
  closed : format.Closed

/-- The end of an object at depth `d`. -/
def Members.nil : Members D Unit where
  format := closing l d 0x7D
  noDigit := (starts_closing l d 0x7D).mono (by rintro c (rfl | rfl) <;> rfl)
  closed := closed_closing l d 0x7D

/-- What stands in front of the value of a member. -/
def memberKey (first : Bool) (key : String) : List UInt8 :=
  (if first then [] else [0x2C]) ++ l.newline (d + 1) ++ (str (D := NoDigit)).print key ++ l.colon

/-- One member, and the others. -/
def Members.cons (first : Bool) (key : String) (f : Format UInt8 NoDigit α) (rest : Members D β) :
    Members D (α × β) where
  format := (f.after (memberKey l d first key)).seq rest.format (by
    intro b r _ c t h
    obtain ⟨c', t', hprint, hc'⟩ := rest.noDigit b
    rw [hprint] at h
    cases h
    exact hc')
  noDigit := by
    rintro ⟨a, b⟩
    cases first with
    | false => exact ⟨_, _, rfl, rfl⟩
    | true => cases l <;> exact ⟨_, _, rfl, rfl⟩
  closed := Format.Closed.seq _ rest.closed _

/-- An object. -/
def object (members : Members D α) : Format UInt8 D α := members.format.after [0x7B]

theorem starts_object (members : Members D α) : (object members).Starts (· = 0x7B) :=
  fun _ => ⟨_, _, rfl, rfl⟩

theorem closed_object (members : Members D α) : (object members).Closed :=
  members.closed.after _

/-- A text that reads as an object starts with a brace. -/
theorem head_of_parse_object {members : Members D α} {xs rest : List UInt8} {a : α}
    (h : (object members).parse xs = some (a, rest)) : xs.head? = some 0x7B := by
  obtain ⟨t, rfl⟩ := Format.prefix_of_parse_after h
  rfl

end Text.Json
