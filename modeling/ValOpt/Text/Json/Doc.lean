import ValOpt.Text.Json
import ValOpt.Text.Utf8

/-!
# JSON texts of any shape

A `Doc` is a JSON document as it is written: the members of an object stand in their order, and
numbers are left open (`N`).  `Doc.print` is the compact text.  Reading one takes a bound on the
nesting of arrays and objects, as `serde_json` has one; a document within the bound reads back, and
no part of the text of an array or an object does (`closed_doc`).  The text has no line feed in it
and is UTF-8.
-/

namespace Text.Json

/-- A JSON text whose numbers are in `N`. -/
inductive Doc (N : Type) where
  | null
  | bool (b : Bool)
  | number (n : N)
  | string (s : String)
  | array (items : List (Doc N))
  | object (members : List (String × Doc N))

variable {N : Type}

mutual

/-- The compact text of a document. -/
def Doc.print (number : N → List UInt8) : Doc N → List UInt8
  | .null => [0x6E, 0x75, 0x6C, 0x6C]
  | .bool b => (bool (D := fun _ => True)).print b
  | .number n => number n
  | .string s => (str (D := fun _ => True)).print s
  | .array [] => [0x5B, 0x5D]
  | .array (t :: ts) => 0x5B :: (t.print number ++ printItems number ts ++ [0x5D])
  | .object [] => [0x7B, 0x7D]
  | .object ((k, t) :: ms) => 0x7B :: ((str (D := fun _ => True)).print k ++ 0x3A :: t.print number
      ++ printMembers number ms ++ [0x7D])

/-- The items of an array behind the first. -/
def printItems (number : N → List UInt8) : List (Doc N) → List UInt8
  | [] => []
  | t :: ts => 0x2C :: t.print number ++ printItems number ts

/-- The members of an object behind the first. -/
def printMembers (number : N → List UInt8) : List (String × Doc N) → List UInt8
  | [] => []
  | (k, t) :: ms => 0x2C :: ((str (D := fun _ => True)).print k ++ 0x3A :: t.print number)
      ++ printMembers number ms

end

/-! ### Lists between brackets -/

section Enclosed

variable {D : List UInt8 → Prop} {α : Type} (l r : UInt8) (f : Format UInt8 D α)

/-- What may follow an item: another one, or the closing bracket. -/
structure Separates (D : List UInt8 → Prop) (r : UInt8) : Prop where
  comma : ∀ t, D (0x2C :: t)
  close : ∀ t, D (r :: t)
  ne : (r == 0x2C) = false

variable (hD : Separates D r)

/-- The items behind the first, and the closing bracket. -/
def enclosedTail : Format UInt8 (fun _ => True) (List α × Unit) :=
  (Format.chain (· == 0x2C) (f.after [0x2C]) (Format.starts_after (by rfl) _ _) (by
    intro c t hc
    rw [eq_of_beq hc]
    exact hD.comma t)).seq (Format.lit [r]) (by
      intro _ rest _
      refine ⟨hD.close rest, fun c t h => ?_⟩
      cases h
      exact hD.ne)

/-- A list between brackets, with commas. -/
def enclosed (hf : f.Starts ((· == r) · = false)) : Format UInt8 (fun _ => True) (List α) :=
  ((Format.branch (· == r) (Format.lit [r])
    (f.seq (enclosedTail r f hD) (by
      rintro ⟨as, u⟩ rest -
      cases as with
      | nil => exact hD.close rest
      | cons a as => exact hD.comma _))
    ((Format.starts_lit r []).mono fun c hc => beq_iff_eq.mpr hc) (Format.Starts.seq hf _ _)).refine
      (fun p => some (p.elim (fun _ => []) fun q => q.1 :: q.2.1))
      (fun | [] => .inl () | a :: as => .inr (a, as, ()))
      elim_firstItem).after [l]

variable {l r f hD} {hf : f.Starts ((· == r) · = false)}

theorem closed_enclosed : (enclosed l r f hD hf).Closed := by
  apply Format.Closed.after
  apply Format.Closed.refine
  apply Format.Closed.branch
  · exact Format.closed_lit (by simp)
  · exact Format.Closed.seq _ (Format.Closed.seq _ (Format.closed_lit (by simp)) _) _

@[simp] theorem print_enclosed_nil : (enclosed l r f hD hf).print [] = [l, r] := rfl

@[simp] theorem print_enclosed_cons (a : α) (as : List α) :
    (enclosed l r f hD hf).print (a :: as) =
      l :: (f.print a ++ (as.flatMap (fun b => 0x2C :: f.print b) ++ [r])) := rfl

end Enclosed

/-! ### Numbers and other scalars -/

/-- The characters of a number. -/
def isNumeric (c : UInt8) : Bool :=
  isDigit c || c == 0x2D || c == 0x2B || c == 0x2E || c == 0x65 || c == 0x45

/-- A text that does not go on with such a character. -/
def NoNumeric (rest : List UInt8) : Prop := ∀ c t, rest = c :: t → isNumeric c = false

/-- How numbers are written and read. -/
structure Numerals (N : Type) where
  format : Format UInt8 NoNumeric N
  numeric : ∀ n, ∀ c ∈ format.print n, isNumeric c = true
  starts : format.Starts (isNumeric · = true)
  parse_other : ∀ c t, isNumeric c = false → format.parse (c :: t) = none

/-- A document that is neither an array nor an object. -/
abbrev Scalar (N : Type) : Type := String ⊕ (Unit ⊕ (Bool ⊕ N))

def Scalar.doc : Scalar N → Doc N
  | .inl s => .string s
  | .inr (.inl ()) => .null
  | .inr (.inr (.inl b)) => .bool b
  | .inr (.inr (.inr n)) => .number n

variable (num : Numerals N)

/-- A scalar starts with a quote, a letter or a character of a number. -/
def isScalar (c : UInt8) : Bool :=
  c == 0x22 || c == 0x6E || c == 0x74 || c == 0x66 || isNumeric c

/-- The class of the character of a number. -/
theorem of_isNumeric {c : UInt8} (h : isNumeric c = true) :
    (c == 0x22) = false ∧ (c == 0x6E) = false ∧ (c == 0x74 || c == 0x66) = false := by
  have hall : ∀ n : Fin 256, isNumeric (UInt8.ofNat n) = true → (UInt8.ofNat n == 0x22) = false ∧
      (UInt8.ofNat n == 0x6E) = false ∧
        (UInt8.ofNat n == 0x74 || UInt8.ofNat n == 0x66) = false := by
    decide +kernel
  have hc := hall ⟨c.toNat, c.toNat_lt⟩
  simp only [UInt8.ofNat_toNat] at hc
  exact hc h

def scalar : Format UInt8 NoNumeric (Scalar N) :=
  Format.branch (· == 0x22) str
    (Format.branch (· == 0x6E) (Format.lit [0x6E, 0x75, 0x6C, 0x6C])
      (Format.branch (fun c => c == 0x74 || c == 0x66) bool num.format
        (starts_bool.mono (by rintro c (rfl | rfl) <;> rfl))
        (num.starts.mono fun c hc => (of_isNumeric hc).2.2))
      ((Format.starts_lit _ _).mono (by rintro c rfl; rfl))
      (Format.Starts.branch (starts_bool.mono (by rintro c (rfl | rfl) <;> rfl))
        (num.starts.mono fun c hc => (of_isNumeric hc).2.1)))
    (starts_str.mono (by rintro c rfl; rfl))
    (Format.Starts.branch ((Format.starts_lit _ _).mono (by rintro c rfl; rfl))
      (Format.Starts.branch (starts_bool.mono (by rintro c (rfl | rfl) <;> rfl))
        (num.starts.mono fun c hc => (of_isNumeric hc).1)))

theorem starts_scalar : (scalar num).Starts (isScalar · = true) := by
  rintro (s | _ | b | n)
  · exact ⟨_, _, rfl, rfl⟩
  · exact ⟨_, _, rfl, rfl⟩
  · cases b <;> exact ⟨_, _, rfl, rfl⟩
  · obtain ⟨c, t, hprint, hc⟩ := num.starts n
    refine ⟨c, t, hprint, ?_⟩
    show (_ || isNumeric c) = true
    rw [hc, Bool.or_true]

theorem print_scalar (s : Scalar N) : (scalar num).print s = s.doc.print num.format.print := by
  rcases s with s | _ | b | n <;> rfl

/-! ### Documents of bounded nesting -/

/-- There are at most so many arrays and objects inside one another. -/
def Doc.Within : ℕ → Doc N → Prop
  | 0, .array _ | 0, .object _ => False
  | n + 1, .array ts => ∀ t ∈ ts, t.Within n
  | n + 1, .object ms => ∀ m ∈ ms, m.2.Within n
  | _, _ => True

/-- A document with this bound. -/
abbrev Bounded (N : Type) (n : ℕ) : Type := {t : Doc N // t.Within n}

theorem Scalar.within (s : Scalar N) (n : ℕ) : s.doc.Within n := by
  rcases s with s | _ | b | m <;> cases n <;> trivial

/-- A document as the reader meets it: an array, an object or a scalar. -/
abbrev Shape (N : Type) (n : ℕ) : Type :=
  List (Bounded N n) ⊕ (List (String × Bounded N n) ⊕ Scalar N)

def Shape.doc {n : ℕ} : Shape N n → Bounded N (n + 1)
  | .inl ts => ⟨.array (ts.map (·.1)), by
      intro t ht
      obtain ⟨b, -, rfl⟩ := List.mem_map.mp ht
      exact b.2⟩
  | .inr (.inl ms) => ⟨.object (ms.map fun m => (m.1, m.2.1)), by
      intro m hm
      obtain ⟨b, -, rfl⟩ := List.mem_map.mp hm
      exact b.2.2⟩
  | .inr (.inr s) => ⟨s.doc, s.within _⟩

def Shape.of {n : ℕ} : Bounded N (n + 1) → Shape N n
  | ⟨.array ts, h⟩ => .inl (ts.attachWith _ h)
  | ⟨.object ms, h⟩ => .inr (.inl ((ms.attachWith _ h).map fun m => (m.1.1, ⟨m.1.2, m.2⟩)))
  | ⟨.null, _⟩ => .inr (.inr (.inr (.inl ())))
  | ⟨.bool b, _⟩ => .inr (.inr (.inr (.inr (.inl b))))
  | ⟨.number m, _⟩ => .inr (.inr (.inr (.inr (.inr m))))
  | ⟨.string s, _⟩ => .inr (.inr (.inl s))

/-- Items within the bound. -/
theorem exists_items {n : ℕ} {ts : List (Doc N)} (h : ∀ t ∈ ts, t.Within n) :
    ∃ bs : List (Bounded N n), ts = bs.map (·.1) :=
  ⟨ts.attachWith _ h, (List.attachWith_map_subtype_val h).symm⟩

/-- Members within the bound. -/
theorem exists_members {n : ℕ} {ms : List (String × Doc N)} (h : ∀ m ∈ ms, m.2.Within n) :
    ∃ bs : List (String × Bounded N n), ms = bs.map fun m => (m.1, m.2.1) := by
  refine ⟨(ms.attachWith _ h).map fun m => (m.1.1, ⟨m.1.2, m.2⟩), ?_⟩
  rw [List.map_map]
  exact (List.attachWith_map_subtype_val h).symm

theorem Shape.doc_of {n : ℕ} (d : Bounded N (n + 1)) : (Shape.of d).doc = d := by
  obtain ⟨d, h⟩ := d
  cases d with
  | array ts =>
    apply Subtype.ext
    exact congrArg Doc.array (List.attachWith_map_subtype_val h)
  | object ms =>
    apply Subtype.ext
    show Doc.object (((ms.attachWith _ h).map _).map _) = _
    rw [List.map_map]
    exact congrArg Doc.object (List.attachWith_map_subtype_val h)
  | _ => rfl

/-- A scalar where no array or object may follow. -/
def Scalar.of : Bounded N 0 → Scalar N
  | ⟨.null, _⟩ => .inr (.inl ())
  | ⟨.bool b, _⟩ => .inr (.inr (.inl b))
  | ⟨.number m, _⟩ => .inr (.inr (.inr m))
  | ⟨.string s, _⟩ => .inl s
  | ⟨.array _, h⟩ | ⟨.object _, h⟩ => h.elim

theorem Scalar.doc_of (d : Bounded N 0) : (Scalar.of d).doc = d.1 := by
  obtain ⟨d, h⟩ := d
  cases d with
  | array ts => exact h.elim
  | object ms => exact h.elim
  | _ => rfl

/-- A member of an object. -/
def member {α : Type} (f : Format UInt8 NoNumeric α) : Format UInt8 NoNumeric (String × α) :=
  Format.seq (D := fun _ => True) str (f.after [0x3A]) fun _ _ _ => trivial

theorem starts_member {α : Type} (f : Format UInt8 NoNumeric α) :
    (member f).Starts (· = 0x22) := Format.Starts.seq starts_str _ _

theorem separates {r : UInt8} (hr : r = 0x5D ∨ r = 0x7D) : Separates NoNumeric r := by
  have hstop : ∀ c : UInt8, c = 0x2C ∨ c = 0x5D ∨ c = 0x7D → ∀ t, NoNumeric (c :: t) := by
    rintro c hc t _ _ ⟨⟩
    rcases hc with rfl | rfl | rfl <;> decide
  refine ⟨hstop _ (Or.inl rfl), hstop _ (Or.inr hr), ?_⟩
  rcases hr with rfl | rfl <;> decide

/-- The first character of a document. -/
def isFirst (c : UInt8) : Bool := c == 0x5B || c == 0x7B || isScalar c

theorem isFirst_close : ∀ c : UInt8, isFirst c = true → (c == 0x5D) = false := by
  intro c h
  by_contra hc
  rw [Bool.not_eq_false] at hc
  rw [eq_of_beq hc] at h
  exact absurd h (by decide)

/-- A format for documents that start as they should. -/
structure Reader (N : Type) (n : ℕ) where
  format : Format UInt8 NoNumeric (Bounded N n)
  starts : format.Starts (isFirst · = true)

/-- The format of an array. -/
def Reader.array {n : ℕ} (f : Reader N n) : Format UInt8 NoNumeric (List (Bounded N n)) :=
  (enclosed 0x5B 0x5D f.format (separates (Or.inl rfl)) (f.starts.mono isFirst_close)).weaken
    fun _ _ => trivial

/-- The format of an object. -/
def Reader.object {n : ℕ} (f : Reader N n) :
    Format UInt8 NoNumeric (List (String × Bounded N n)) :=
  (enclosed 0x7B 0x7D (member f.format) (separates (Or.inr rfl))
    ((starts_member f.format).mono (by rintro c rfl; rfl))).weaken fun _ _ => trivial

theorem Reader.starts_array {n : ℕ} (f : Reader N n) : f.array.Starts (· = 0x5B) :=
  fun _ => ⟨_, _, rfl, rfl⟩

theorem Reader.starts_object {n : ℕ} (f : Reader N n) : f.object.Starts (· = 0x7B) :=
  fun _ => ⟨_, _, rfl, rfl⟩

theorem Reader.closed_object {n : ℕ} (f : Reader N n) : f.object.Closed :=
  Format.Closed.weaken closed_enclosed _

theorem of_isScalar {c : UInt8} (h : isScalar c = true) :
    (c == 0x5B) = false ∧ (c == 0x7B) = false ∧ isFirst c = true := by
  refine ⟨?_, ?_, by rw [isFirst, h, Bool.or_true]⟩
  all_goals
    by_contra hc
    rw [Bool.not_eq_false] at hc
    rw [eq_of_beq hc] at h
    exact absurd h (by decide)

/-- The format of documents whose parts have the format `f`. -/
def shape {n : ℕ} (f : Reader N n) : Format UInt8 NoNumeric (Shape N n) :=
  Format.branch (· == 0x5B) f.array
    (Format.branch (· == 0x7B) f.object (scalar num)
      (f.starts_object.mono (by rintro c rfl; rfl))
      ((starts_scalar num).mono fun _ hc => (of_isScalar hc).2.1))
    (f.starts_array.mono (by rintro c rfl; rfl))
    (Format.Starts.branch (f.starts_object.mono (by rintro c rfl; rfl))
      ((starts_scalar num).mono fun _ hc => (of_isScalar hc).1))

theorem starts_shape {n : ℕ} (f : Reader N n) : (shape num f).Starts (isFirst · = true) :=
  Format.Starts.branch (f.starts_array.mono (by rintro c rfl; rfl))
    (Format.Starts.branch (f.starts_object.mono (by rintro c rfl; rfl))
      ((starts_scalar num).mono fun _ hc => (of_isScalar hc).2.2))

/-- The format of documents with at most `n` arrays and objects inside one another. -/
def reader : (n : ℕ) → Reader N n
  | 0 => {
      format := (scalar num).refine (fun s => some ⟨s.doc, s.within 0⟩) Scalar.of
        fun d => congrArg some (Subtype.ext (Scalar.doc_of d))
      starts := Format.Starts.refine
        ((starts_scalar num).mono fun _ hc => (of_isScalar hc).2.2) _ _ _ }
  | n + 1 => {
      format := (shape num (reader n)).refine (fun s => some (Shape.doc s)) Shape.of
        fun d => congrArg some (Shape.doc_of d)
      starts := (starts_shape num (reader n)).refine _ _ _ }

/-! ### The text of a document -/

section Print

variable {num} {n : ℕ} {f : Reader N n}
  (h : ∀ d : Bounded N n, f.format.print d = d.1.print num.format.print)

include h

theorem print_items (ts : List (Bounded N n)) :
    ts.flatMap (fun d => 0x2C :: f.format.print d) =
      printItems num.format.print (ts.map (·.1)) := by
  induction ts with
  | nil => rfl
  | cons d ts ih =>
    rw [List.flatMap_cons, List.map_cons, printItems, ih, h]

theorem print_array (ts : List (Bounded N n)) :
    f.array.print ts = (Doc.array (ts.map (·.1))).print num.format.print := by
  cases ts with
  | nil => rfl
  | cons d ts =>
    rw [List.map_cons, Doc.print, ← print_items h, ← h, List.append_assoc]
    rfl

theorem print_members (ms : List (String × Bounded N n)) :
    ms.flatMap (fun m => 0x2C :: (member f.format).print m) =
      printMembers num.format.print (ms.map fun m => (m.1, m.2.1)) := by
  induction ms with
  | nil => rfl
  | cons m ms ih =>
    rw [List.flatMap_cons, List.map_cons, printMembers, ih, ← h]
    rfl

theorem print_object (ms : List (String × Bounded N n)) :
    f.object.print ms =
      (Doc.object (ms.map fun m => (m.1, m.2.1))).print num.format.print := by
  cases ms with
  | nil => rfl
  | cons m ms =>
    rw [List.map_cons, Doc.print, ← print_members h, ← h, List.append_assoc]
    rfl

theorem print_shape (s : Shape N n) :
    (shape num f).print s = (Shape.doc s).1.print num.format.print := by
  rcases s with ts | ms | s
  · exact print_array h ts
  · exact print_object h ms
  · exact print_scalar num s

end Print

/-- Whatever the bound, a document has the same text. -/
theorem print_reader (n : ℕ) (d : Bounded N n) :
    (reader num n).format.print d = d.1.print num.format.print := by
  induction n with
  | zero =>
    show (scalar num).print (Scalar.of d) = _
    rw [print_scalar, Scalar.doc_of]
  | succ n ih =>
    show (shape num (reader num n)).print (Shape.of d) = _
    rw [print_shape ih, Shape.doc_of]

/-! ### The text is one line -/

/-- What is written for a byte of a string: itself, or ASCII characters other than a line feed. -/
theorem print_stringByte (b : UInt8) :
    (b < 0x80 ∧ ∀ c ∈ stringByte.print b, c < 0x80 ∧ c ≠ 0x0A) ∨ stringByte.print b = [b] := by
  have hall : ∀ n : Fin 256, (UInt8.ofNat n < 0x80 ∧
      ∀ c ∈ stringByte.print (UInt8.ofNat n), c < 0x80 ∧ c ≠ 0x0A) ∨
        stringByte.print (UInt8.ofNat n) = [UInt8.ofNat n] := by decide +kernel
  have hb := hall ⟨b.toNat, b.toNat_lt⟩
  simp only [UInt8.ofNat_toNat] at hb
  exact hb

/-- The bytes of a character, each as it is written. -/
theorem isLine_char (c : Char) :
    IsLine ((String.utf8EncodeChar c).flatMap stringByte.print) := by
  by_cases hsmall : ∃ b ∈ String.utf8EncodeChar c, b < 0x80
  · obtain ⟨b, hb, hlt⟩ := hsmall
    rw [(of_mem_utf8EncodeChar hb hlt).1, List.flatMap_cons, List.flatMap_nil, List.append_nil]
    apply IsLine.of_ascii
    rcases print_stringByte b with h | h
    · exact h.2
    · intro b' hb'
      rw [h, List.mem_singleton] at hb'
      subst hb'
      refine ⟨hlt, ?_⟩
      rintro rfl
      exact absurd h (by decide)
  · -- no byte of the character is written otherwise
    have hself : (String.utf8EncodeChar c).flatMap stringByte.print = String.utf8EncodeChar c := by
      have hmap : ∀ b ∈ String.utf8EncodeChar c, stringByte.print b = [b] := by
        intro b hb
        rcases print_stringByte b with h | h
        · exact absurd ⟨b, hb, h.1⟩ hsmall
        · exact h
      rw [List.flatMap_congr hmap, List.flatMap_singleton']
    rw [hself]
    refine ⟨⟨[c], List.append_nil _⟩, fun hmem => hsmall ⟨_, hmem, by decide⟩⟩

theorem isLine_str {D : List UInt8 → Prop} (s : String) : IsLine ((str (D := D)).print s) := by
  have hbody : ∀ cs : List Char, IsLine ((bytesOf cs).flatMap stringByte.print) := by
    intro cs
    induction cs with
    | nil => exact IsLine.nil
    | cons c cs ih =>
      rw [bytesOf_cons, List.flatMap_append]
      exact (isLine_char c).append ih
  have hprint : (str (D := D)).print s =
      0x22 :: ((bytesOf s.toList).flatMap stringByte.print ++ [0x22]) := by
    rw [bytesOf_toList]
    rfl
  rw [hprint]
  exact ((hbody _).append (IsLine.of_all (by decide))).cons (by decide)

/-- The characters of a number are ASCII. -/
theorem ascii_of_isNumeric {c : UInt8} (h : isNumeric c = true) : c < 0x80 ∧ c ≠ 0x0A := by
  have hall : ∀ n : Fin 256, isNumeric (UInt8.ofNat n) = true →
      UInt8.ofNat n < 0x80 ∧ UInt8.ofNat n ≠ 0x0A := by decide +kernel
  have hc := hall ⟨c.toNat, c.toNat_lt⟩
  simp only [UInt8.ofNat_toNat] at hc
  exact hc h

/-- A member whose value is written in one line. -/
theorem isLine_member (k : String) {text : List UInt8} (h : IsLine text) :
    IsLine ((str (D := fun _ => True)).print k ++ 0x3A :: text) := by
  have hcolon : IsLine (0x3A :: text) := h.cons (by decide)
  exact (isLine_str k).append hcolon

mutual

/-- The text of a document is UTF-8 without a line feed. -/
theorem isLine_print : ∀ d : Doc N, IsLine (d.print num.format.print)
  | .null => by
    show IsLine [0x6E, 0x75, 0x6C, 0x6C]
    exact IsLine.of_all (by decide)
  | .bool true => by
    show IsLine [0x74, 0x72, 0x75, 0x65]
    exact IsLine.of_all (by decide)
  | .bool false => by
    show IsLine [0x66, 0x61, 0x6C, 0x73, 0x65]
    exact IsLine.of_all (by decide)
  | .number n => IsLine.of_ascii fun c hc => ascii_of_isNumeric (num.numeric n c hc)
  | .string s => isLine_str s
  | .array [] => by
    show IsLine [0x5B, 0x5D]
    exact IsLine.of_all (by decide)
  | .array (t :: ts) => by
    rw [Doc.print]
    exact (((isLine_print t).append (isLine_printItems ts)).append
      (IsLine.of_all (by decide))).cons (by decide)
  | .object [] => by
    show IsLine [0x7B, 0x7D]
    exact IsLine.of_all (by decide)
  | .object ((k, t) :: ms) => by
    rw [Doc.print]
    exact (((isLine_member k (isLine_print t)).append (isLine_printMembers ms)).append
      (IsLine.of_all (by decide))).cons (by decide)

theorem isLine_printItems : ∀ ts : List (Doc N), IsLine (printItems num.format.print ts)
  | [] => IsLine.nil
  | t :: ts => by
    rw [printItems]
    exact ((isLine_print t).append (isLine_printItems ts)).cons (by decide)

theorem isLine_printMembers : ∀ ms : List (String × Doc N),
    IsLine (printMembers num.format.print ms)
  | [] => IsLine.nil
  | (k, t) :: ms => by
    rw [printMembers]
    exact ((isLine_member k (isLine_print t)).append (isLine_printMembers ms)).cons (by decide)

end

/-! ### Documents that are nested too deep -/

section Deep

variable {D : List UInt8 → Prop} {α : Type} {l r : UInt8} {f : Format UInt8 D α}
  {hD : Separates D r} (hf : f.Starts ((· == r) · = false))

include hf

/-- A list is not read if its items are not. -/
theorem parse_enclosed_none {c : UInt8} {bad : List UInt8} (hc : (c == r) = false)
    (hbad : ∀ {h}, (f.seq (enclosedTail r f hD) h).parse (c :: bad) = none) :
    (enclosed l r f hD hf).parse (l :: c :: bad) = none := by
  unfold enclosed
  apply Format.parse_after_none
  apply Format.parse_refine_none
  rw [Format.parse_branch_right (p := (· == r)) hc, hbad, Option.map_none]

/-- So it is if the first item is not. -/
theorem parse_enclosed_first {c : UInt8} {bad : List UInt8} (hc : (c == r) = false)
    (hbad : f.parse (c :: bad) = none) :
    (enclosed l r f hD hf).parse (l :: c :: bad) = none :=
  parse_enclosed_none hf hc (Format.parse_seq_none hbad)

/-- And if another one is not. -/
theorem parse_enclosed_next (a : α) (as : List α) {bad : List UInt8} (hbad : f.parse bad = none) :
    (enclosed l r f hD hf).parse
      (l :: (f.print a ++ (as.flatMap (fun b => 0x2C :: f.print b) ++ 0x2C :: bad))) = none := by
  have hitem : (f.after [0x2C]).parse (0x2C :: bad) = none := Format.parse_after_none hbad
  have htail : (enclosedTail r f hD).parse
      (as.flatMap (fun b => 0x2C :: f.print b) ++ 0x2C :: bad) = none := by
    apply Format.parse_seq_none
    exact Format.parseMany_none (Format.starts_after (by rfl) _ _)
      (fun c t hc => eq_of_beq hc ▸ hD.comma t) as (by rfl) hitem _
  have hnext : D (as.flatMap (fun b => 0x2C :: f.print b) ++ 0x2C :: bad) := by
    cases as with
    | nil => exact hD.comma _
    | cons b bs => exact hD.comma _
  have hbody : ∀ {h}, (f.seq (enclosedTail r f hD) h).parse
      (f.print a ++ (as.flatMap (fun b => 0x2C :: f.print b) ++ 0x2C :: bad)) = none :=
    Format.parse_seq_print_none a hnext htail
  obtain ⟨c, t, hprint, hc⟩ := hf a
  rw [hprint, List.cons_append] at hbody ⊢
  exact parse_enclosed_none hf hc hbody

end Deep

/-- The first element of a list that has not some property. -/
theorem exists_first_not {α : Type} {p : α → Prop} {as : List α} (h : ¬ ∀ a ∈ as, p a) :
    ∃ good bad more, as = good ++ bad :: more ∧ (∀ a ∈ good, p a) ∧ ¬ p bad := by
  induction as with
  | nil => exact absurd (fun _ h => (nomatch h)) h
  | cons a as ih =>
    by_cases ha : p a
    · have hrest : ¬ ∀ b ∈ as, p b := fun hall => h (List.forall_mem_cons.mpr ⟨ha, hall⟩)
      obtain ⟨good, bad, more, rfl, hgood, hbad⟩ := ih hrest
      exact ⟨a :: good, bad, more, rfl, List.forall_mem_cons.mpr ⟨ha, hgood⟩, hbad⟩
    · exact ⟨[], a, as, rfl, fun _ h => (nomatch h), ha⟩

theorem printItems_append (number : N → List UInt8) (ts us : List (Doc N)) :
    printItems number (ts ++ us) = printItems number ts ++ printItems number us := by
  induction ts with
  | nil => rfl
  | cons t ts ih => rw [List.cons_append, printItems, printItems, ih, List.append_assoc]

theorem printMembers_append (number : N → List UInt8) (ms ls : List (String × Doc N)) :
    printMembers number (ms ++ ls) = printMembers number ms ++ printMembers number ls := by
  induction ms with
  | nil => rfl
  | cons m ms ih => rw [List.cons_append, printMembers, printMembers, ih, List.append_assoc]

theorem head_array (ts : List (Doc N)) :
    ∃ t, (Doc.array ts).print num.format.print = 0x5B :: t := by
  cases ts <;> exact ⟨_, rfl⟩

theorem head_object (ms : List (String × Doc N)) :
    ∃ t, (Doc.object ms).print num.format.print = 0x7B :: t := by
  cases ms <;> exact ⟨_, rfl⟩

/-- An object stands between braces. -/
theorem print_object_eq (ms : List (String × Doc N)) :
    ∃ t, (Doc.object ms).print num.format.print = 0x7B :: (t ++ [0x7D]) := by
  cases ms with
  | nil => exact ⟨[], rfl⟩
  | cons m ms => exact ⟨_, rfl⟩

/-- A document starts as it should, whatever its nesting. -/
theorem head_print (d : Doc N) :
    ∃ c t, d.print num.format.print = c :: t ∧ isFirst c = true := by
  cases d with
  | null => exact ⟨_, _, rfl, rfl⟩
  | bool b => cases b <;> exact ⟨_, _, rfl, rfl⟩
  | number n =>
    obtain ⟨c, t, hprint, hc⟩ := num.starts n
    refine ⟨c, t, hprint, (of_isScalar (c := c) ?_).2.2⟩
    show (_ || isNumeric c) = true
    rw [hc, Bool.or_true]
  | string s => exact ⟨_, _, rfl, rfl⟩
  | array ts =>
    obtain ⟨t, ht⟩ := head_array num ts
    exact ⟨_, t, ht, rfl⟩
  | object ms =>
    obtain ⟨t, ht⟩ := head_object num ms
    exact ⟨_, t, ht, rfl⟩

/-- A bracket does not start a scalar. -/
theorem parse_scalar_bracket {c : UInt8} (hc : c = 0x5B ∨ c = 0x7B) (t : List UInt8) :
    (scalar num).parse (c :: t) = none := by
  have hnumber : num.format.parse (c :: t) = none :=
    num.parse_other c t (by rcases hc with rfl | rfl <;> decide)
  unfold scalar
  rw [Format.parse_branch_right (by rcases hc with rfl | rfl <;> decide),
    Format.parse_branch_right (by rcases hc with rfl | rfl <;> decide),
    Format.parse_branch_right (by rcases hc with rfl | rfl <;> decide), hnumber]
  rfl

/-- An array with an item that is not read. -/
theorem parse_array_none {n : ℕ} {f : Reader N n}
    (h : ∀ d : Bounded N n, f.format.print d = d.1.print num.format.print)
    {good m : List (Doc N)} (hgood : ∀ d ∈ good, d.Within n) {bad : Doc N}
    (hbad : ∀ rest, f.format.parse (bad.print num.format.print ++ rest) = none)
    (rest : List UInt8) :
    f.array.parse ((Doc.array (good ++ bad :: m)).print num.format.print ++ rest) = none := by
  cases good with
  | nil =>
    obtain ⟨c, t, hprint, hc⟩ := head_print num bad
    have hnone := hbad (printItems num.format.print m ++ [0x5D] ++ rest)
    rw [hprint] at hnone
    rw [List.nil_append, Doc.print, hprint]
    simp only [List.cons_append, List.append_assoc] at hnone ⊢
    exact parse_enclosed_first (f.starts.mono isFirst_close) (isFirst_close c hc) hnone
  | cons d ds =>
    obtain ⟨bs, rfl⟩ := exists_items fun d hd => hgood d (List.mem_cons_of_mem _ hd)
    have hnone := hbad (printItems num.format.print m ++ ([0x5D] ++ rest))
    have hd := h ⟨d, hgood d List.mem_cons_self⟩
    rw [List.cons_append, Doc.print, printItems_append, printItems, ← print_items h, ← hd]
    simp only [List.cons_append, List.append_assoc] at hnone ⊢
    exact parse_enclosed_next (f.starts.mono isFirst_close) _ bs hnone

/-- An object with a value that is not read. -/
theorem parse_object_none {n : ℕ} {f : Reader N n}
    (h : ∀ d : Bounded N n, f.format.print d = d.1.print num.format.print)
    {good l : List (String × Doc N)} (hgood : ∀ m ∈ good, m.2.Within n) {bad : String × Doc N}
    (hbad : ∀ rest, f.format.parse (bad.2.print num.format.print ++ rest) = none)
    (rest : List UInt8) :
    f.object.parse ((Doc.object (good ++ bad :: l)).print num.format.print ++ rest) = none := by
  have hmember : ∀ rest, (member f.format).parse ((str (D := fun _ => True)).print bad.1 ++
      0x3A :: (bad.2.print num.format.print ++ rest)) = none := fun rest =>
    Format.parse_seq_print_none bad.1 trivial (Format.parse_after_none (hbad rest))
  have hstarts : (member f.format).Starts ((· == 0x7D) · = false) :=
    (starts_member f.format).mono (by rintro c rfl; rfl)
  cases good with
  | nil =>
    have hnone := hmember (printMembers num.format.print l ++ ([0x7D] ++ rest))
    rw [List.nil_append, Doc.print]
    simp only [List.cons_append, List.append_assoc] at hnone ⊢
    exact parse_enclosed_first hstarts (c := 0x22) (by decide) hnone
  | cons m ms =>
    obtain ⟨bs, rfl⟩ := exists_members fun m hm => hgood m (List.mem_cons_of_mem _ hm)
    have hnone := hmember (printMembers num.format.print l ++ ([0x7D] ++ rest))
    have hm := h ⟨m.2, hgood m List.mem_cons_self⟩
    rw [List.cons_append, Doc.print, printMembers_append, printMembers, ← print_members h, ← hm]
    simp only [List.cons_append, List.append_assoc] at hnone ⊢
    have hprint : (member f.format).print (m.1, ⟨m.2, hgood m List.mem_cons_self⟩) =
        (str (D := fun _ => True)).print m.1 ++
          0x3A :: f.format.print ⟨m.2, hgood m List.mem_cons_self⟩ := rfl
    have hnext : f.object.parse (0x7B :: ((member f.format).print _ ++ _)) = none :=
      parse_enclosed_next hstarts (m.1, ⟨m.2, hgood m List.mem_cons_self⟩) bs hnone
    rw [hprint] at hnext
    simp only [List.cons_append, List.append_assoc] at hnext
    exact hnext

/-- The reader of arrays is asked behind an opening bracket. -/
theorem parse_shape_array {n : ℕ} {f : Reader N n} {t : List UInt8}
    (h : f.array.parse (0x5B :: t) = none) : (shape num f).parse (0x5B :: t) = none := by
  unfold shape
  rw [Format.parse_branch_left (by rfl)]
  exact congrArg (Option.map _) h

/-- And that of objects behind an opening brace. -/
theorem parse_shape_object {n : ℕ} {f : Reader N n} {t : List UInt8}
    (h : f.object.parse (0x7B :: t) = none) : (shape num f).parse (0x7B :: t) = none := by
  unfold shape
  rw [Format.parse_branch_right (by rfl), Format.parse_branch_left (by rfl)]
  exact congrArg (Option.map _) (congrArg (Option.map _) h)

/-- A document that is nested too deep is not read, whatever follows it. -/
theorem parse_deep {n : ℕ} {d : Doc N} (h : ¬ d.Within n) (rest : List UInt8) :
    (reader num n).format.parse (d.print num.format.print ++ rest) = none := by
  induction n generalizing d rest with
  | zero =>
    unfold reader
    dsimp only
    apply Format.parse_refine_none
    cases d with
    | array ts => cases ts <;> exact parse_scalar_bracket num (Or.inl rfl) _
    | object ms => cases ms <;> exact parse_scalar_bracket num (Or.inr rfl) _
    | _ => exact absurd trivial h
  | succ n ih =>
    unfold reader
    dsimp only
    apply Format.parse_refine_none
    cases d with
    | array ts =>
      obtain ⟨good, bad, more, rfl, hgood, hbad⟩ := exists_first_not h
      have hnone := parse_array_none num (print_reader num n) (m := more) hgood (ih hbad) rest
      obtain ⟨t, ht⟩ := head_array num (good ++ bad :: more)
      rw [ht] at hnone ⊢
      exact parse_shape_array num hnone
    | object ms =>
      obtain ⟨good, bad, more, rfl, hgood, hbad⟩ := exists_first_not h
      have hnone := parse_object_none num (print_reader num n) (l := more) hgood (ih hbad) rest
      obtain ⟨t, ht⟩ := head_object num (good ++ bad :: more)
      rw [ht] at hnone ⊢
      exact parse_shape_object num hnone
    | _ => exact absurd trivial h

/-! ### Whole texts -/

/-- Read a text that is one document and perhaps some blanks. -/
def readDoc (blank : UInt8 → Bool) (n : ℕ) (text : List UInt8) : Option (Doc N) :=
  ((reader num n).format.read blank text).map (·.1)

theorem noNumeric_nil : NoNumeric [] := fun _ _ h => (nomatch h)

/-- A document within the bound reads back. -/
theorem readDoc_print (blank : UInt8 → Bool) {n : ℕ} {d : Doc N} (h : d.Within n) :
    readDoc num blank n (d.print num.format.print) = some d := by
  have hread := (reader num n).format.read_print noNumeric_nil blank ⟨d, h⟩
  rw [print_reader] at hread
  rw [readDoc, hread, Option.map_some]

/-- **A document that is nested too deep does not.** -/
theorem readDoc_deep (blank : UInt8 → Bool) {n : ℕ} {d : Doc N} (h : ¬ d.Within n) :
    readDoc num blank n (d.print num.format.print) = none := by
  have hnone := parse_deep num h []
  rw [List.append_nil] at hnone
  rw [readDoc, Format.read, hnone]
  rfl

/-- No part of the text of an object is read, whatever its nesting. -/
theorem readDoc_take (blank : UInt8 → Bool) {n : ℕ} {ms : List (String × Doc N)} {k : ℕ}
    (hk : k < ((Doc.object ms).print num.format.print).length) :
    readDoc num blank (n + 1) (((Doc.object ms).print num.format.print).take k) = none := by
  have htake : (reader num n).object.parse
      (((Doc.object ms).print num.format.print).take k) = none := by
    by_cases hms : (Doc.object ms).Within (n + 1)
    · obtain ⟨bs, rfl⟩ := exists_members hms
      have hprint := print_object (print_reader num n) bs
      rw [Option.eq_none_iff_forall_ne_some, ← hprint]
      exact fun p => (reader num n).closed_object.parse_take noNumeric_nil bs (hprint ▸ hk) p.1 p.2
    · -- the whole text is not read either
      obtain ⟨good, bad, more, rfl, hgood, hbad⟩ := exists_first_not hms
      have hnone := parse_object_none num (print_reader num n) (l := more) hgood
        (parse_deep num hbad) []
      rw [List.append_nil] at hnone
      exact (reader num n).closed_object.parse_take_none hnone k
  obtain ⟨t, ht⟩ := head_object num ms
  rw [ht] at htake ⊢
  have hnone : (reader num (n + 1)).format.parse ((0x7B :: t).take k) = none := by
    unfold reader
    dsimp only
    apply Format.parse_refine_none
    cases k with
    | zero => rfl
    | succ k => exact parse_shape_object num htake
  rw [readDoc, Format.read, hnone]
  rfl

end Text.Json
