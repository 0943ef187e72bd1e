import Mathlib.Tactic.IntervalCases
import ValOpt.Optimizations.Guid

/-!
# A GUID survives its text

`stringToGuid_guidToString`: what `guidToString` writes, `stringToGuid` reads back.  The text has
no white space and no brace (`mem_guidToString`), so the trims leave it alone, and no group holds a
hyphen, so the split finds the five groups again (`splitOn_guidToString`).
-/

namespace ValOpt

open Text

/-- Every character of a group is a digit. -/
theorem mem_guidGroups {g : Guid} {l : List Char} (hl : l ∈ guidGroups g) {c : Char} (hc : c ∈ l) :
    ∃ d < 16, c = hexChar d := by
  simp only [guidGroups, List.mem_cons, List.not_mem_nil, or_false] at hl
  rcases hl with rfl | rfl | rfl | rfl | rfl
  · exact mem_hexFixed hc
  · exact mem_hexFixed hc
  · exact mem_hexFixed hc
  · simp only [hexByte, List.mem_append] at hc
    rcases hc with hc | hc <;> exact mem_hexFixed hc
  · simp only [hexByte, List.mem_append] at hc
    rcases hc with ((((hc | hc) | hc) | hc) | hc) | hc <;> exact mem_hexFixed hc

/-- Every character of the text is a hyphen or a digit. -/
theorem mem_guidToString {g : Guid} {c : Char} (h : c ∈ (guidToString g).toList) :
    c = '-' ∨ ∃ d < 16, c = hexChar d := by
  rw [guidToString, String.toList_ofList] at h
  rcases mem_intercalate h with hc | ⟨l, hl, hc⟩
  · exact Or.inl (by simpa using hc)
  · exact Or.inr (mem_guidGroups hl hc)

/-- No digit is one of the characters that `stringToGuid` cuts off or splits at. -/
theorem hexChar_plain {d : ℕ} (h : d < 16) :
    hexChar d ≠ '-' ∧ hexChar d ≠ '{' ∧ hexChar d ≠ '}' ∧ isWhitespace (hexChar d) = false := by
  have hall : ∀ d ∈ List.range 16,
      hexChar d ≠ '-' ∧ hexChar d ≠ '{' ∧ hexChar d ≠ '}' ∧ isWhitespace (hexChar d) = false := by
    decide
  exact hall d (List.mem_range.mpr h)

theorem trim_guidToString (g : Guid) :
    trimMatches (· == '}') (trimMatches (· == '{')
      (trimMatches isWhitespace (guidToString g).toList)) = (guidToString g).toList := by
  have hplain : ∀ c ∈ (guidToString g).toList,
      isWhitespace c = false ∧ (c == '{') = false ∧ (c == '}') = false := by
    intro c hc
    rcases mem_guidToString hc with rfl | ⟨d, hd, rfl⟩
    · decide
    · obtain ⟨-, hopen, hclose, hws⟩ := hexChar_plain hd
      exact ⟨hws, by simpa using hopen, by simpa using hclose⟩
  rw [trimMatches_eq_self fun c hc => (hplain c hc).1,
    trimMatches_eq_self fun c hc => (hplain c hc).2.1,
    trimMatches_eq_self fun c hc => (hplain c hc).2.2]

theorem splitOn_guidToString (g : Guid) : (guidToString g).toList.splitOn '-' = guidGroups g := by
  rw [guidToString, String.toList_ofList]
  refine List.splitOn_intercalate '-' (fun l hl hmem => ?_) (by simp [guidGroups])
  obtain ⟨d, hd, heq⟩ := mem_guidGroups hl hmem
  exact (hexChar_plain hd).1 heq.symm

/-- A group of bytes reads as the number with these bytes, highest first. -/
theorem fromStrRadix16_bytes (bound : ℕ) (b : UInt8) (bs : List UInt8)
    (hb : 256 ^ (bs.length + 1) ≤ bound) :
    fromStrRadix16 bound ((b :: bs).flatMap hexByte) =
      .ok ((b :: bs).foldl (fun acc x => acc * 256 + x.toNat) 0) := by
  have hmem : ∀ c ∈ (b :: bs).flatMap hexByte, ∃ d < 16, c = hexChar d := by
    intro c hc
    obtain ⟨x, -, hx⟩ := List.mem_flatMap.mp hc
    exact mem_hexFixed hx
  -- the accumulator stays below the bytes it has read
  have hgo : ∀ (l : List UInt8) (acc : ℕ), (acc + 1) * 256 ^ l.length ≤ bound →
      parseDigits bound acc (l.flatMap hexByte) =
        .ok (l.foldl (fun acc x => acc * 256 + x.toNat) acc) := by
    intro l
    induction l with
    | nil => intro acc _; rfl
    | cons x l ih =>
      intro acc hacc
      have hx := x.toNat_lt
      have hle : acc * 256 + x.toNat + 1 ≤ (acc + 1) * 256 := by omega
      have hstep : (acc * 256 + x.toNat + 1) * 256 ^ l.length ≤ bound := by
        refine le_trans (Nat.mul_le_mul_right _ hle) ?_
        rw [List.length_cons, pow_succ] at hacc
        calc (acc + 1) * 256 * 256 ^ l.length = (acc + 1) * (256 ^ l.length * 256) := by ring
          _ ≤ bound := hacc
      have hlt : acc * 256 + x.toNat < bound := by
        have hpos : 0 < 256 ^ l.length := Nat.pos_of_neZero _
        calc acc * 256 + x.toNat < acc * 256 + x.toNat + 1 := Nat.lt_succ_self _
          _ ≤ (acc * 256 + x.toNat + 1) * 256 ^ l.length := Nat.le_mul_of_pos_right _ hpos
          _ ≤ bound := hstep
      have hread : parseDigits bound acc (hexByte x) = .ok (acc * 256 + x.toNat) := by
        simpa [hexByte] using parseDigits_hexFixed bound 2 acc x.toNat (by omega) (by omega)
      rw [List.flatMap_cons, parseDigits_append _ hread, ih _ hstep, List.foldl_cons]
  have hne : (b :: bs).flatMap hexByte ≠ [] := by
    simp [hexByte, hexFixed]
  rw [fromStrRadix16_eq_parseDigits hne hmem]
  refine hgo (b :: bs) 0 ?_
  simpa using hb

/-- A number taken to `u8` is the byte of its low eight bits. -/
theorem ofNat_eq_of_mod {n : ℕ} {b : UInt8} (h : n % 256 = b.toNat) : UInt8.ofNat n = b := by
  apply UInt8.toNat_inj.mp
  rw [UInt8.toNat_ofNat', h]

theorem and_255 (n : ℕ) : n &&& 0xFF = n % 256 := Nat.and_two_pow_sub_one_eq_mod n 8

/-- The byte of six that stands above `r`, which fills the places below it. -/
theorem groupByte_eq {p4 i q r : ℕ} {b : UInt8} (hr : r < 256 ^ (5 - i))
    (hp : p4 = (q * 256 + b.toNat) * 256 ^ (5 - i) + r) : groupByte p4 i = b := by
  have hdiv : p4 / 256 ^ (5 - i) = q * 256 + b.toNat := by
    rw [hp, Nat.mul_comm, Nat.mul_add_div (Nat.pos_of_neZero _), Nat.div_eq_of_lt hr, Nat.add_zero]
  have hb := b.toNat_lt
  rw [groupByte, and_255, Nat.shiftRight_eq_div_pow, pow_mul]
  apply ofNat_eq_of_mod
  change p4 / 256 ^ (5 - i) % 256 % 256 = b.toNat
  omega

/-- The number with the given bytes, after an accumulator that moves up as many places. -/
theorem foldl_bytes (bs : List UInt8) (acc : ℕ) :
    bs.foldl (fun acc x => acc * 256 + x.toNat) acc =
      acc * 256 ^ bs.length + bs.foldl (fun acc x => acc * 256 + x.toNat) 0 := by
  induction bs generalizing acc with
  | nil => simp
  | cons b bs ih =>
    rw [List.foldl_cons, List.foldl_cons, ih, ih (0 * 256 + b.toNat), List.length_cons, pow_succ]
    ring

theorem foldl_bytes_lt (bs : List UInt8) :
    bs.foldl (fun acc x => acc * 256 + x.toNat) 0 < 256 ^ bs.length := by
  induction bs with
  | nil => simp
  | cons b bs ih =>
    have hb := b.toNat_lt
    rw [List.foldl_cons, foldl_bytes, List.length_cons]
    calc (0 * 256 + b.toNat) * 256 ^ bs.length + bs.foldl (fun acc x => acc * 256 + x.toNat) 0
        < (0 * 256 + b.toNat) * 256 ^ bs.length + 256 ^ bs.length := Nat.add_lt_add_left ih _
      _ = (b.toNat + 1) * 256 ^ bs.length := by ring
      _ ≤ 256 * 256 ^ bs.length := Nat.mul_le_mul_right _ (by omega)
      _ = 256 ^ (bs.length + 1) := by ring

/-- Each byte of the last group is found again at its place. -/
theorem groupByte_bytes (before : List UInt8) (b : UInt8) (after : List UInt8) {i : ℕ}
    (hi : after.length = 5 - i) :
    groupByte ((before ++ b :: after).foldl (fun acc x => acc * 256 + x.toNat) 0) i = b := by
  have hlt := foldl_bytes_lt after
  rw [hi] at hlt
  apply groupByte_eq hlt
  rw [List.foldl_append, List.foldl_cons, foldl_bytes, hi]

/-- **A GUID survives its text**: distinct schemes are never confused in a stored record. -/
theorem stringToGuid_guidToString (g : Guid) : stringToGuid (guidToString g) = .ok g := by
  obtain ⟨d1, d2, d3, d4⟩ := g
  obtain ⟨b0, b1, b2, b3, b4, b5, b6, b7, rfl⟩ : ∃ b0 b1 b2 b3 b4 b5 b6 b7 : UInt8,
      d4 = #v[b0, b1, b2, b3, b4, b5, b6, b7] := by
    refine ⟨d4[0], d4[1], d4[2], d4[3], d4[4], d4[5], d4[6], d4[7], Vector.ext fun i hi => ?_⟩
    interval_cases i <;> rfl
  have h1 : fromStrRadix16 (2 ^ 32) (hexFixed 8 d1.toNat) = .ok d1.toNat :=
    fromStrRadix16_hexFixed 7 _ d1.toNat_lt d1.toNat_lt
  have h2 : fromStrRadix16 (2 ^ 16) (hexFixed 4 d2.toNat) = .ok d2.toNat :=
    fromStrRadix16_hexFixed 3 _ d2.toNat_lt d2.toNat_lt
  have h3 : fromStrRadix16 (2 ^ 16) (hexFixed 4 d3.toNat) = .ok d3.toNat :=
    fromStrRadix16_hexFixed 3 _ d3.toNat_lt d3.toNat_lt
  have h4 := fromStrRadix16_bytes (2 ^ 16) b0 [b1] (by simp)
  have h5 := fromStrRadix16_bytes (2 ^ 64) b2 [b3, b4, b5, b6, b7] (by simp)
  simp only [List.flatMap_cons, List.flatMap_nil, List.append_nil, List.foldl_cons,
    List.foldl_nil, ← List.append_assoc] at h4 h5
  generalize hp3 : (0 * 256 + b0.toNat) * 256 + b1.toNat = p3 at h4
  have hb0 := b0.toNat_lt
  have hb1 := b1.toNat_lt
  have e0 : UInt8.ofNat (p3 >>> 8) = b0 :=
    ofNat_eq_of_mod (by rw [Nat.shiftRight_eq_div_pow]; omega)
  have e1 : UInt8.ofNat (p3 &&& 0xFF) = b1 := ofNat_eq_of_mod (by rw [and_255]; omega)
  -- the bytes of the last group, each between those above and those below it
  have e2 := groupByte_bytes [] b2 [b3, b4, b5, b6, b7] (i := 0) rfl
  have e3 := groupByte_bytes [b2] b3 [b4, b5, b6, b7] (i := 1) rfl
  have e4 := groupByte_bytes [b2, b3] b4 [b5, b6, b7] (i := 2) rfl
  have e5 := groupByte_bytes [b2, b3, b4] b5 [b6, b7] (i := 3) rfl
  have e6 := groupByte_bytes [b2, b3, b4, b5] b6 [b7] (i := 4) rfl
  have e7 := groupByte_bytes [b2, b3, b4, b5, b6] b7 [] (i := 5) rfl
  simp only [List.nil_append, List.cons_append, List.foldl_cons, List.foldl_nil]
    at e2 e3 e4 e5 e6 e7
  simp only [stringToGuid, trim_guidToString, splitOn_guidToString, guidGroups]
  have hd4 : ∀ i (hi : i < 8), #v[b0, b1, b2, b3, b4, b5, b6, b7][i] =
      [b0, b1, b2, b3, b4, b5, b6, b7][i] := fun i hi => rfl
  simp only [hd4, List.getElem_cons_zero, List.getElem_cons_succ]
  simp only [h1, h2, h3, h4, h5, e0, e1, e2, e3, e4, e5, e6, e7, Except.mapError, bind,
    Except.bind, pure, Except.pure, UInt32.ofNat_toNat, UInt16.ofNat_toNat]

end ValOpt
