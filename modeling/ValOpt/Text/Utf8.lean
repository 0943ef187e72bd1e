import Mathlib.Data.List.Basic
import Mathlib.Data.List.Induction
import ValOpt.Text.Str

/-!
# UTF-8

`bytesOf` encodes a text and `fromUtf8` decodes it, as `str::from_utf8` does.  `IsUtf8` holds of the
byte strings that are the encoding of some text.  A byte below 0x80 in such a string is a character
by itself (`of_mem_utf8EncodeChar`), so ASCII characters can be looked for among the bytes.
-/

namespace Text

/-- `str::as_bytes`. -/
def bytesOf (cs : List Char) : List UInt8 := cs.flatMap String.utf8EncodeChar

/-- `str::from_utf8`. -/
def fromUtf8 (bs : List UInt8) : Option (List Char) :=
  (String.fromUTF8? ⟨bs.toArray⟩).map String.toList

@[simp] theorem bytesOf_nil : bytesOf [] = [] := rfl

theorem bytesOf_cons (c : Char) (cs : List Char) :
    bytesOf (c :: cs) = String.utf8EncodeChar c ++ bytesOf cs := rfl

theorem bytesOf_append (cs ds : List Char) : bytesOf (cs ++ ds) = bytesOf cs ++ bytesOf ds :=
  List.flatMap_append

theorem length_bytesOf_cons (c : Char) (s : List Char) :
    (bytesOf (c :: s)).length = c.utf8Size + (bytesOf s).length := by
  rw [bytesOf_cons, List.length_append, String.length_utf8EncodeChar]

theorem bytesOf_toList (s : String) : bytesOf s.toList = s.toUTF8.data.toList := by
  have h : s.toList.utf8Encode = s.toUTF8 := String.utf8Encode_toList
  rw [← h, List.utf8Encode, List.toList_data_toByteArray]
  rfl

/-- What was encoded is decoded. -/
@[simp] theorem fromUtf8_bytesOf (cs : List Char) : fromUtf8 (bytesOf cs) = some cs := by
  have hbytes : bytesOf cs = (String.ofList cs).toUTF8.data.toList := by
    rw [← bytesOf_toList, String.toList_ofList]
  unfold fromUtf8
  rw [hbytes, Array.toArray_toList]
  have hread : String.fromUTF8? (String.ofList cs).toUTF8 = some (String.ofList cs) :=
    dif_pos (String.ofList cs).isValidUTF8
  rw [hread, Option.map_some, String.toList_ofList]

/-- What is decoded was encoded. -/
theorem bytesOf_of_fromUtf8 {bs : List UInt8} {cs : List Char} (h : fromUtf8 bs = some cs) :
    bytesOf cs = bs := by
  obtain ⟨s, hs, rfl⟩ := Option.map_eq_some_iff.mp h
  rw [bytesOf_toList]
  unfold String.fromUTF8? at hs
  split at hs
  · cases hs
    rfl
  · cases hs

/-! ### Single bytes -/

/-- A byte below 0x80 is a character by itself. -/
theorem of_mem_utf8EncodeChar {c : Char} {b : UInt8} (h : b ∈ String.utf8EncodeChar c)
    (hb : b < 0x80) : String.utf8EncodeChar c = [b] ∧ c.toNat = b.toNat := by
  have hb' : b.toNat < 0x80 := hb
  have hlead : ∀ n, 0x80 ≤ n → n < 0x100 → b ≠ UInt8.ofNat n := by
    intro n hn hlt hbn
    rw [hbn, UInt8.toNat_ofNat', Nat.mod_eq_of_lt hlt] at hb'
    omega
  have hlt : c.val.toNat < 0x110000 := by
    have hvalid := c.valid
    simp only [UInt32.isValidChar, Nat.isValidChar] at hvalid
    omega
  unfold String.utf8EncodeChar at h ⊢
  dsimp only at h ⊢
  split at h
  · next hv =>
    rw [List.mem_singleton] at h
    rw [if_pos hv, h]
    refine ⟨rfl, ?_⟩
    rw [UInt8.toNat_ofNat', Nat.mod_eq_of_lt (by omega)]
    rfl
  · exfalso
    split at h
    · simp only [List.mem_cons, List.not_mem_nil, or_false] at h
      rcases h with h | h <;> exact hlead _ (by omega) (by omega) h
    · split at h
      · simp only [List.mem_cons, List.not_mem_nil, or_false] at h
        rcases h with h | h | h <;> exact hlead _ (by omega) (by omega) h
      · simp only [List.mem_cons, List.not_mem_nil, or_false] at h
        rcases h with h | h | h | h <;> exact hlead _ (by omega) (by omega) h

/-- An ASCII character is a byte. -/
theorem utf8EncodeChar_of_lt {c : Char} (h : c.toNat < 0x80) :
    String.utf8EncodeChar c = [UInt8.ofNat c.toNat] := by
  have hle : c.val.toNat ≤ 0x7F := by
    show c.toNat ≤ 0x7F
    omega
  unfold String.utf8EncodeChar
  exact if_pos hle

theorem utf8EncodeChar_ne_nil (c : Char) : String.utf8EncodeChar c ≠ [] := by
  intro h
  have hlen := String.length_utf8EncodeChar c
  rw [h] at hlen
  have hpos := c.utf8Size_pos
  rw [List.length_nil] at hlen
  omega

/-- The first byte tells the first character, if it is below 0x80. -/
theorem head_of_bytesOf {cs : List Char} {b : UInt8} {t : List UInt8} (h : bytesOf cs = b :: t)
    (hb : b < 0x80) : ∃ c ds, cs = c :: ds ∧ c.toNat = b.toNat := by
  cases cs with
  | nil => cases h
  | cons c ds =>
    have hmem : b ∈ String.utf8EncodeChar c := by
      rw [bytesOf_cons] at h
      obtain ⟨a, u, hau⟩ := List.exists_cons_of_ne_nil (utf8EncodeChar_ne_nil c)
      rw [hau, List.cons_append, List.cons.injEq] at h
      rw [hau, h.1]
      exact List.mem_cons_self
    exact ⟨c, ds, rfl, (of_mem_utf8EncodeChar hmem hb).2⟩

/-- And the last byte the last character. -/
theorem last_of_bytesOf {cs : List Char} {b : UInt8} {t : List UInt8} (h : bytesOf cs = t ++ [b])
    (hb : b < 0x80) : ∃ c ds, cs = ds ++ [c] ∧ c.toNat = b.toNat := by
  induction cs using List.reverseRecOn with
  | nil => simp at h
  | append_singleton ds c _ =>
    have hmem : b ∈ String.utf8EncodeChar c := by
      rw [bytesOf_append, bytesOf_cons, bytesOf_nil, List.append_nil] at h
      have hlast := congrArg List.getLast? h
      rw [List.getLast?_append_of_ne_nil _ (utf8EncodeChar_ne_nil c), List.getLast?_concat] at hlast
      exact List.mem_of_getLast? hlast
    exact ⟨c, ds, rfl, (of_mem_utf8EncodeChar hmem hb).2⟩

/-! ### Encodings -/

/-- The bytes are the encoding of a text. -/
def IsUtf8 (bs : List UInt8) : Prop := ∃ cs, bytesOf cs = bs

namespace IsUtf8

theorem nil : IsUtf8 [] := ⟨[], rfl⟩

theorem append {as bs : List UInt8} (ha : IsUtf8 as) (hb : IsUtf8 bs) : IsUtf8 (as ++ bs) := by
  obtain ⟨cs, rfl⟩ := ha
  obtain ⟨ds, rfl⟩ := hb
  exact ⟨cs ++ ds, bytesOf_append cs ds⟩

theorem flatMap {α : Type*} {f : α → List UInt8} {as : List α} (h : ∀ a ∈ as, IsUtf8 (f a)) :
    IsUtf8 (as.flatMap f) := by
  induction as with
  | nil => exact nil
  | cons a as ih =>
    rw [List.flatMap_cons]
    exact append (h a List.mem_cons_self) (ih fun b hb => h b (List.mem_cons_of_mem _ hb))

/-- A byte below 0x80 alone. -/
theorem singleton {b : UInt8} (hb : b < 0x80) : IsUtf8 [b] := by
  have hb' : b.toNat < 0x80 := hb
  have hchar : (Char.ofNat b.toNat).toNat = b.toNat := by
    have hvalid : b.toNat.isValidChar := Or.inl (by omega)
    rw [Char.ofNat, dif_pos hvalid]
    rfl
  refine ⟨[Char.ofNat b.toNat], ?_⟩
  rw [bytesOf_cons, bytesOf_nil, List.append_nil, utf8EncodeChar_of_lt (by omega), hchar,
    UInt8.ofNat_toNat]

/-- A string of such bytes. -/
theorem of_ascii {bs : List UInt8} (h : ∀ b ∈ bs, b < 0x80) : IsUtf8 bs := by
  have hmap : bs.flatMap (fun b => [b]) = bs := by simp
  rw [← hmap]
  exact flatMap fun b hb => singleton (h b hb)

end IsUtf8

/-! ### Lines -/

/-- A text without a line feed. -/
structure IsLine (bs : List UInt8) : Prop where
  utf8 : IsUtf8 bs
  noFeed : 0x0A ∉ bs

namespace IsLine

theorem nil : IsLine [] := ⟨IsUtf8.nil, List.not_mem_nil⟩

theorem append {as bs : List UInt8} (ha : IsLine as) (hb : IsLine bs) : IsLine (as ++ bs) := by
  refine ⟨ha.utf8.append hb.utf8, ?_⟩
  rw [List.mem_append]
  exact fun h => h.elim ha.noFeed hb.noFeed

theorem of_ascii {bs : List UInt8} (h : ∀ b ∈ bs, b < 0x80 ∧ b ≠ 0x0A) : IsLine bs :=
  ⟨IsUtf8.of_ascii fun b hb => (h b hb).1, fun hmem => (h _ hmem).2 rfl⟩

/-- A text that is given byte by byte. -/
theorem of_all {bs : List UInt8} (h : (bs.all fun b => b < 0x80 && b != 0x0A) = true) :
    IsLine bs := by
  apply of_ascii
  intro b hb
  simpa using List.all_eq_true.mp h b hb

theorem cons {b : UInt8} {bs : List UInt8} (hb : b < 0x80 ∧ b ≠ 0x0A) (h : IsLine bs) :
    IsLine (b :: bs) := by
  have hone : IsLine [b] := of_ascii (by simpa using hb)
  exact hone.append h

end IsLine

end Text
