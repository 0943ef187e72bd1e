import ValOpt.Effect.Basic
import ValOpt.Optimizations.Equiv.Guid

/-!
# The texts that `string_to_guid` accepts

A GUID survives its text with white space and braces around it (`guid_roundTrip`).  But the groups
are read by integer parsers, which take any number of digits and a plus, so more texts are accepted
than the ones with groups of 8, 4, 4, 4 and 12 digits (`stringToGuid_isOk_iff`), and of these texts
the GUID does not have all digits (`stringToGuid_exact_iff`).
-/

namespace ValOpt

open Text

/-! ### Around the text -/

/-- `clean`: the text without the white space and the braces around it. -/
def cleanText (s : String) : List Char :=
  trimMatches (· == '}') (trimMatches (· == '{') (trimMatches isWhitespace s.toList))

/-- What is around a text without any character of the class is cut off. -/
theorem trimMatches_wrap {p : Char → Bool} {before s after : List Char}
    (hbefore : ∀ c ∈ before, p c = true) (hs : ∀ c ∈ s, p c = false)
    (hafter : ∀ c ∈ after, p c = true) : trimMatches p (before ++ s ++ after) = s := by
  have hfront : trimMatches p (before ++ s ++ after) = trimMatches p (s ++ after) := by
    rw [trimMatches, List.append_assoc, List.dropWhile_append_of_pos hbefore]
    rfl
  rw [hfront]
  apply trimMatches_append _ _ hafter
  · intro c hc
    exact hs c (List.mem_of_mem_head? hc)
  · intro c hc
    exact hs c (List.mem_of_mem_getLast? hc)

/-- A GUID in white space and braces. -/
def wrapped (before : List Char) (opened : ℕ) (g : Guid) (closed : ℕ) (after : List Char) :
    String :=
  String.ofList (before ++ (List.replicate opened '{' ++ (guidToString g).toList ++
    List.replicate closed '}') ++ after)

theorem cleanText_wrapped (g : Guid) (opened closed : ℕ) {before after : List Char}
    (hbefore : ∀ c ∈ before, isWhitespace c = true) (hafter : ∀ c ∈ after, isWhitespace c = true) :
    cleanText (wrapped before opened g closed after) = (guidToString g).toList := by
  have hplain : ∀ c ∈ (guidToString g).toList,
      isWhitespace c = false ∧ (c == '{') = false ∧ (c == '}') = false := by
    intro c hc
    rcases mem_guidToString hc with rfl | ⟨d, hd, rfl⟩
    · decide
    · obtain ⟨-, hopen, hclose, hws⟩ := hexChar_plain hd
      exact ⟨hws, by simpa using hopen, by simpa using hclose⟩
  have hbrace : ∀ c, c ∈ List.replicate opened '{' ++ (guidToString g).toList ++
      List.replicate closed '}' → isWhitespace c = false := by
    intro c hc
    rw [List.mem_append, List.mem_append] at hc
    rcases hc with (hc | hc) | hc
    · rw [List.eq_of_mem_replicate hc]
      decide
    · exact (hplain c hc).1
    · rw [List.eq_of_mem_replicate hc]
      decide
  have hclose : ∀ c ∈ (guidToString g).toList ++ List.replicate closed '}', (c == '{') = false := by
    intro c hc
    rw [List.mem_append] at hc
    rcases hc with hc | hc
    · exact (hplain c hc).2.1
    · rw [List.eq_of_mem_replicate hc]
      decide
  have hopened : ∀ c ∈ List.replicate opened '{', (c == '{') = true := by
    intro c hc
    rw [List.eq_of_mem_replicate hc]
    decide
  have hclosed : ∀ c ∈ List.replicate closed '}', (c == '}') = true := by
    intro c hc
    rw [List.eq_of_mem_replicate hc]
    decide
  have hnone : ∀ {p : Char → Bool}, ∀ c ∈ ([] : List Char), p c = true := fun c hc =>
    absurd hc List.not_mem_nil
  have htext := trimMatches_wrap hnone (fun c hc => (hplain c hc).2.2) hclosed
  have hwithBraces := trimMatches_wrap hopened hclose hnone
  rw [List.append_nil, ← List.append_assoc] at hwithBraces
  rw [List.nil_append] at htext
  rw [cleanText, wrapped, String.toList_ofList, trimMatches_wrap hbefore hbrace hafter, hwithBraces,
    htext]

/-! ### What is parsed -/

/-- Two bytes, and six that depend on their index. -/
def eightBytes (b0 b1 : UInt8) (byte : ℕ → UInt8) : Vector UInt8 8 :=
  #v[b0, b1, byte 0, byte 1, byte 2, byte 3, byte 4, byte 5]

/-- The GUID of the five numbers that are read. -/
def guidOf (d1 d2 d3 p3 p4 : ℕ) : Guid where
  data1 := UInt32.ofNat d1
  data2 := UInt16.ofNat d2
  data3 := UInt16.ofNat d3
  data4 := eightBytes (UInt8.ofNat (p3 >>> 8)) (UInt8.ofNat (p3 &&& 0xFF)) (groupByte p4)

/-- The five groups hold numbers that fit. -/
structure Reads (parts : List (List Char)) (d1 d2 d3 p3 p4 : ℕ) : Prop where
  groups : ∃ part0 part1 part2 part3 part4, parts = [part0, part1, part2, part3, part4] ∧
    HexNumber (2 ^ 32) part0 d1 ∧ HexNumber (2 ^ 16) part1 d2 ∧ HexNumber (2 ^ 16) part2 d3 ∧
    HexNumber (2 ^ 16) part3 p3 ∧ HexNumber (2 ^ 64) part4 p4

/-- A group that is read is read without its error. -/
theorem mapError_eq_ok_iff {bound v : ℕ} {part : List Char} (hbound : 0 < bound) :
    (fromStrRadix16 bound part).mapError IntErrorKind.message = .ok v ↔ HexNumber bound part v := by
  rw [← fromStrRadix16_eq_ok_iff hbound]
  cases fromStrRadix16 bound part <;> simp [Except.mapError]

theorem stringToGuid_eq_ok_iff {s : String} {g : Guid} : stringToGuid s = .ok g ↔
    ∃ d1 d2 d3 p3 p4, Reads ((cleanText s).splitOn '-') d1 d2 d3 p3 p4 ∧
      g = guidOf d1 d2 d3 p3 p4 := by
  rw [stringToGuid, ← cleanText]
  split
  next part0 part1 part2 part3 part4 hparts =>
    rw [hparts]
    constructor
    · intro h
      obtain ⟨d1, h0, h⟩ := Effect.bind_eq_ok h
      obtain ⟨d2, h1, h⟩ := Effect.bind_eq_ok h
      obtain ⟨d3, h2, h⟩ := Effect.bind_eq_ok h
      obtain ⟨p3, h3, h⟩ := Effect.bind_eq_ok h
      obtain ⟨p4, h4, h⟩ := Effect.bind_eq_ok h
      rw [mapError_eq_ok_iff (by decide)] at h0 h1 h2 h3 h4
      exact ⟨d1, d2, d3, p3, p4, ⟨_, _, _, _, _, rfl, h0, h1, h2, h3, h4⟩, (Except.ok.inj h).symm⟩
    · rintro ⟨d1, d2, d3, p3, p4, ⟨q0, q1, q2, q3, q4, heq, h0, h1, h2, h3, h4⟩, rfl⟩
      obtain ⟨rfl, rfl, rfl, rfl, rfl, -⟩ : part0 = q0 ∧ part1 = q1 ∧ part2 = q2 ∧ part3 = q3 ∧
          part4 = q4 ∧ True := by simpa using heq
      simp only [(mapError_eq_ok_iff (by decide)).mpr h0, (mapError_eq_ok_iff (by decide)).mpr h1,
        (mapError_eq_ok_iff (by decide)).mpr h2, (mapError_eq_ok_iff (by decide)).mpr h3,
        (mapError_eq_ok_iff (by decide)).mpr h4, bind, Except.bind, pure, Except.pure]
      rfl
  next hnot =>
    apply iff_of_false (by simp)
    rintro ⟨d1, d2, d3, p3, p4, ⟨part0, part1, part2, part3, part4, hparts, -⟩, -⟩
    exact hnot _ _ _ _ _ hparts

/-- What is parsed is the clean text. -/
theorem stringToGuid_congr {s t : String} {g : Guid} (h : cleanText s = cleanText t) :
    stringToGuid s = .ok g ↔ stringToGuid t = .ok g := by
  rw [stringToGuid_eq_ok_iff, stringToGuid_eq_ok_iff, h]

/-- **A GUID survives its text**, in white space and braces too, and no two have the same. -/
theorem guid_roundTrip (g : Guid) :
    (∀ before opened closed after, (∀ c ∈ before, isWhitespace c = true) →
      (∀ c ∈ after, isWhitespace c = true) →
        stringToGuid (wrapped before opened g closed after) = .ok g) ∧
    wrapped [] 0 g 0 [] = guidToString g ∧
    ∀ g', guidToString g' = guidToString g → g' = g := by
  refine ⟨?_, ?_, ?_⟩
  · intro before opened closed after hbefore hafter
    have hclean :
        cleanText (wrapped before opened g closed after) = cleanText (guidToString g) := by
      rw [cleanText_wrapped g opened closed hbefore hafter, cleanText, trim_guidToString]
    rw [stringToGuid_congr hclean]
    exact stringToGuid_guidToString g
  · simp [wrapped]
  · intro g' h
    have hread := stringToGuid_guidToString g'
    rw [h, stringToGuid_guidToString] at hread
    exact (Except.ok.inj hread).symm

/-! ### The groups of what is parsed -/

theorem hexByte_ofNat (n : ℕ) : hexByte (UInt8.ofNat n) = hexFixed 2 n := by
  rw [hexByte, UInt8.toNat_ofNat']
  exact hexFixed_mod 2 n

/-- The numbers are written back, as far as there are digits for them. -/
theorem guidGroups_guidOf {d1 d2 d3 : ℕ} (h1 : d1 < 2 ^ 32) (h2 : d2 < 2 ^ 16) (h3 : d3 < 2 ^ 16)
    (p3 p4 : ℕ) : guidGroups (guidOf d1 d2 d3 p3 p4) =
      [hexFixed 8 d1, hexFixed 4 d2, hexFixed 4 d3, hexFixed 4 p3, hexFixed 12 p4] := by
  have hlast : ∀ w n, hexFixed (w + 2) n = hexFixed w (n / 256) ++ hexFixed 2 n := fun w n =>
    hexFixed_add w 2 n
  have hbyte : ∀ i, hexByte (groupByte p4 i) = hexFixed 2 (p4 / 256 ^ (5 - i)) := by
    intro i
    rw [groupByte, and_255, hexByte_ofNat, Nat.shiftRight_eq_div_pow, pow_mul]
    exact hexFixed_mod 2 _
  -- the bytes of the last group are its lower 48 bits
  have hsix : hexFixed 12 p4 = hexFixed 2 (p4 / 256 ^ (5 - 0)) ++ hexFixed 2 (p4 / 256 ^ (5 - 1)) ++
      hexFixed 2 (p4 / 256 ^ (5 - 2)) ++ hexFixed 2 (p4 / 256 ^ (5 - 3)) ++
        hexFixed 2 (p4 / 256 ^ (5 - 4)) ++ hexFixed 2 (p4 / 256 ^ (5 - 5)) := by
    rw [hlast 10, hlast 8, hlast 6, hlast 4, hlast 2]
    simp only [Nat.div_div_eq_div_mul]
    norm_num
  have hhigh : hexByte (UInt8.ofNat (p3 >>> 8)) = hexFixed 2 (p3 / 256) := by
    rw [hexByte_ofNat, Nat.shiftRight_eq_div_pow]
  have hlow : hexByte (UInt8.ofNat (p3 &&& 0xFF)) = hexFixed 2 p3 := by
    rw [and_255, hexByte_ofNat]
    exact hexFixed_mod 2 p3
  change [hexFixed 8 (UInt32.ofNat d1).toNat, hexFixed 4 (UInt16.ofNat d2).toNat,
    hexFixed 4 (UInt16.ofNat d3).toNat,
    hexByte (UInt8.ofNat (p3 >>> 8)) ++ hexByte (UInt8.ofNat (p3 &&& 0xFF)),
    hexByte (groupByte p4 0) ++ hexByte (groupByte p4 1) ++ hexByte (groupByte p4 2) ++
      hexByte (groupByte p4 3) ++ hexByte (groupByte p4 4) ++ hexByte (groupByte p4 5)] = _
  rw [UInt32.toNat_ofNat_of_lt' h1, UInt16.toNat_ofNat_of_lt' h2, UInt16.toNat_ofNat_of_lt' h3,
    hhigh, hlow, ← hlast 2, hbyte, hbyte, hbyte, hbyte, hbyte, hbyte, hsix]

/-! ### The grammars -/

/-- Five groups between hyphens, each with a given number of digits. -/
def StrictText (text : List Char) : Prop :=
  ∃ parts, text = ['-'].intercalate parts ∧
    List.Forall₂ (fun width part => part.length = width ∧ ∀ c ∈ part, IsHexDigit c)
      [8, 4, 4, 4, 12] parts

/-- Five groups between hyphens, each with a number below a given bound. -/
def LooseText (text : List Char) : Prop :=
  ∃ parts, text = ['-'].intercalate parts ∧
    List.Forall₂ (fun bound part => ∃ v, HexNumber bound part v)
      [2 ^ 32, 2 ^ 16, 2 ^ 16, 2 ^ 16, 2 ^ 64] parts

/-- Five groups with what is asked of each. -/
theorem forall₂_five {α : Type} {R : α → List Char → Prop} {x0 x1 x2 x3 x4 : α}
    {parts : List (List Char)} : List.Forall₂ R [x0, x1, x2, x3, x4] parts ↔
      ∃ part0 part1 part2 part3 part4, parts = [part0, part1, part2, part3, part4] ∧
        R x0 part0 ∧ R x1 part1 ∧ R x2 part2 ∧ R x3 part3 ∧ R x4 part4 := by
  constructor
  · rintro (_ | ⟨h0, _ | ⟨h1, _ | ⟨h2, _ | ⟨h3, _ | ⟨h4, _ | _⟩⟩⟩⟩⟩)
    exact ⟨_, _, _, _, _, rfl, h0, h1, h2, h3, h4⟩
  · rintro ⟨part0, part1, part2, part3, part4, rfl, h0, h1, h2, h3, h4⟩
    exact .cons h0 (.cons h1 (.cons h2 (.cons h3 (.cons h4 .nil))))

/-- Groups that can be read have no hyphens, so the text is split where they were joined. -/
theorem reads_intercalate {q0 q1 q2 q3 q4 : List Char} {d1 d2 d3 p3 p4 : ℕ}
    (h0 : HexNumber (2 ^ 32) q0 d1) (h1 : HexNumber (2 ^ 16) q1 d2) (h2 : HexNumber (2 ^ 16) q2 d3)
    (h3 : HexNumber (2 ^ 16) q3 p3) (h4 : HexNumber (2 ^ 64) q4 p4) :
    Reads ((['-'].intercalate [q0, q1, q2, q3, q4]).splitOn '-') d1 d2 d3 p3 p4 := by
  have hhyphen : ∀ part ∈ [q0, q1, q2, q3, q4], '-' ∉ part := by
    simp only [List.forall_mem_cons]
    exact ⟨h0.hyphen_not_mem, h1.hyphen_not_mem, h2.hyphen_not_mem, h3.hyphen_not_mem,
      h4.hyphen_not_mem, by simp⟩
  rw [List.splitOn_intercalate '-' hhyphen (by simp)]
  exact ⟨q0, q1, q2, q3, q4, rfl, h0, h1, h2, h3, h4⟩

/-- The groups of a loose text are the parts between its hyphens. -/
theorem looseText_iff (text : List Char) :
    LooseText text ↔ ∃ d1 d2 d3 p3 p4, Reads (text.splitOn '-') d1 d2 d3 p3 p4 := by
  constructor
  · rintro ⟨parts, rfl, hparts⟩
    obtain ⟨q0, q1, q2, q3, q4, rfl, ⟨d1, h0⟩, ⟨d2, h1⟩, ⟨d3, h2⟩, ⟨p3, h3⟩, ⟨p4, h4⟩⟩ :=
      forall₂_five.mp hparts
    exact ⟨d1, d2, d3, p3, p4, reads_intercalate h0 h1 h2 h3 h4⟩
  · rintro ⟨d1, d2, d3, p3, p4, q0, q1, q2, q3, q4, hsplit, h0, h1, h2, h3, h4⟩
    refine ⟨[q0, q1, q2, q3, q4], ?_, ?_⟩
    · rw [← hsplit, List.intercalate_splitOn]
    · exact forall₂_five.mpr
        ⟨q0, q1, q2, q3, q4, rfl, ⟨d1, h0⟩, ⟨d2, h1⟩, ⟨d3, h2⟩, ⟨p3, h3⟩, ⟨p4, h4⟩⟩

/-- Digits of the right number are the digits of a number that fits. -/
theorem hexNumber_of_digits {width bound : ℕ} {part : List Char} (hwidth : 16 ^ width ≤ bound)
    (hpos : 0 < width) (h : part.length = width ∧ ∀ c ∈ part, IsHexDigit c) :
    HexNumber bound part (digitsValue 0 part) := by
  refine ⟨part, .inl rfl, ?_, h.2, rfl, ?_⟩
  · apply List.ne_nil_of_length_pos
    omega
  · have hlt := (hexFixed_digitsValue h.2).1
    rw [h.1] at hlt
    omega

/-- Digits are written back in lower case. -/
theorem hexFixed_of_digits {width : ℕ} {part : List Char}
    (h : part.length = width ∧ ∀ c ∈ part, IsHexDigit c) :
    hexFixed width (digitsValue 0 part) = part.map Char.toLower := by
  rw [← h.1]
  exact (hexFixed_digitsValue h.2).2

/-- What the five groups of a strict text are read as. -/
theorem StrictText.reads {text : List Char} (h : StrictText text) :
    ∃ q0 q1 q2 q3 q4, text = ['-'].intercalate [q0, q1, q2, q3, q4] ∧
      Reads (text.splitOn '-') (digitsValue 0 q0) (digitsValue 0 q1) (digitsValue 0 q2)
        (digitsValue 0 q3) (digitsValue 0 q4) ∧
      [hexFixed 8 (digitsValue 0 q0), hexFixed 4 (digitsValue 0 q1), hexFixed 4 (digitsValue 0 q2),
        hexFixed 4 (digitsValue 0 q3), hexFixed 12 (digitsValue 0 q4)] =
          [q0, q1, q2, q3, q4].map (List.map Char.toLower) := by
  obtain ⟨parts, rfl, hparts⟩ := h
  obtain ⟨q0, q1, q2, q3, q4, rfl, h0, h1, h2, h3, h4⟩ := forall₂_five.mp hparts
  have hread0 : HexNumber (2 ^ 32) q0 _ := hexNumber_of_digits (by decide) (by decide) h0
  have hread1 : HexNumber (2 ^ 16) q1 _ := hexNumber_of_digits (by decide) (by decide) h1
  have hread2 : HexNumber (2 ^ 16) q2 _ := hexNumber_of_digits (by decide) (by decide) h2
  have hread3 : HexNumber (2 ^ 16) q3 _ := hexNumber_of_digits (by decide) (by decide) h3
  have hread4 : HexNumber (2 ^ 64) q4 _ := hexNumber_of_digits (by decide) (by decide) h4
  refine ⟨q0, q1, q2, q3, q4, rfl, reads_intercalate hread0 hread1 hread2 hread3 hread4, ?_⟩
  · rw [hexFixed_of_digits h0, hexFixed_of_digits h1, hexFixed_of_digits h2, hexFixed_of_digits h3,
      hexFixed_of_digits h4]
    rfl

theorem StrictText.loose {text : List Char} (h : StrictText text) : LooseText text := by
  obtain ⟨q0, q1, q2, q3, q4, -, hreads, -⟩ := h.reads
  exact (looseText_iff text).mpr ⟨_, _, _, _, _, hreads⟩

/-- The text in lower case consists of the groups in lower case. -/
theorem map_toLower_intercalate (parts : List (List Char)) :
    (['-'].intercalate parts).map Char.toLower =
      ['-'].intercalate (parts.map (List.map Char.toLower)) := by
  induction parts with
  | nil => rfl
  | cons part parts ih =>
    cases parts with
    | nil => simp
    | cons part' parts =>
      have hhyphen : ['-'].map Char.toLower = ['-'] := by decide
      rw [List.intercalate_cons_cons, List.map_append, List.map_append, ih, hhyphen]
      simp only [List.map_cons, List.intercalate_cons_cons]

/-- All digits of a strict text come back, in lower case. -/
theorem guidToString_of_strict {s : String} {g : Guid} (hstrict : StrictText (cleanText s))
    (h : stringToGuid s = .ok g) : (guidToString g).toList = (cleanText s).map Char.toLower := by
  obtain ⟨q0, q1, q2, q3, q4, htext, hreads, hwrite⟩ := hstrict.reads
  have hg : stringToGuid s = .ok (guidOf (digitsValue 0 q0) (digitsValue 0 q1) (digitsValue 0 q2)
      (digitsValue 0 q3) (digitsValue 0 q4)) :=
    stringToGuid_eq_ok_iff.mpr ⟨_, _, _, _, _, hreads, rfl⟩
  obtain rfl := Except.ok.inj (h.symm.trans hg)
  obtain ⟨_, _, _, _, _, -, h0, h1, h2, -⟩ := hreads
  rw [guidToString, String.toList_ofList, guidGroups_guidOf h0.lt h1.lt h2.lt, hwrite, htext,
    map_toLower_intercalate]

/-! ### What is accepted -/

/-- The parser accepts just the strict texts, and keeps all their digits. -/
def ParsesExactly (s : String) : Prop :=
  (∀ g, stringToGuid s = .ok g →
    StrictText (cleanText s) ∧ (guidToString g).toList = (cleanText s).map Char.toLower) ∧
  (¬ StrictText (cleanText s) → ∃ e, stringToGuid s = .error e)

theorem stringToGuid_isOk_iff (s : String) :
    (∃ g, stringToGuid s = .ok g) ↔ LooseText (cleanText s) := by
  rw [looseText_iff]
  constructor
  · rintro ⟨g, hg⟩
    obtain ⟨d1, d2, d3, p3, p4, hreads, -⟩ := stringToGuid_eq_ok_iff.mp hg
    exact ⟨d1, d2, d3, p3, p4, hreads⟩
  · rintro ⟨d1, d2, d3, p3, p4, hreads⟩
    exact ⟨_, stringToGuid_eq_ok_iff.mpr ⟨d1, d2, d3, p3, p4, hreads, rfl⟩⟩

/-- **Where the parser is exact**: on every text but those that are loose and not strict. -/
theorem stringToGuid_exact_iff (s : String) :
    (ParsesExactly s ↔ (LooseText (cleanText s) → StrictText (cleanText s))) ∧
    (StrictText (cleanText s) → ∃ g, stringToGuid s = .ok g) := by
  refine ⟨?_, fun hstrict => (stringToGuid_isOk_iff s).mpr hstrict.loose⟩
  constructor
  · intro hexact hloose
    obtain ⟨g, hg⟩ := (stringToGuid_isOk_iff s).mpr hloose
    exact (hexact.1 g hg).1
  · intro h
    constructor
    · intro g hg
      have hstrict := h ((stringToGuid_isOk_iff s).mp ⟨g, hg⟩)
      exact ⟨hstrict, guidToString_of_strict hstrict hg⟩
    · intro hstrict
      cases hparse : stringToGuid s with
      | error e => exact ⟨e, rfl⟩
      | ok g => exact absurd (h ((stringToGuid_isOk_iff s).mp ⟨g, hparse⟩)) hstrict

/-! ### Instances -/

theorem guid_roundTrip_highPerformance :
    stringToGuid (wrapped [' '] 1 highPerformanceGuid 1 [' ']) = .ok highPerformanceGuid := by
  have hspace : ∀ c ∈ [' '], isWhitespace c = true := List.forall_mem_singleton.mpr rfl
  exact (guid_roundTrip highPerformanceGuid).1 [' '] 1 1 [' '] hspace hspace

/-- The four digits put before the last group are ignored. -/
theorem stringToGuid_ignores_digits :
    stringToGuid "8c5e7fda-e8bf-4a96-9a85-ffffa6e23a8c635c" = .ok highPerformanceGuid ∧
    ¬ ParsesExactly "8c5e7fda-e8bf-4a96-9a85-ffffa6e23a8c635c" := by
  have hparse : stringToGuid "8c5e7fda-e8bf-4a96-9a85-ffffa6e23a8c635c" =
      .ok highPerformanceGuid := by decide
  refine ⟨hparse, ?_⟩
  intro hexact
  have hlength := congrArg List.length (hexact.1 _ hparse).2
  revert hlength
  decide

end ValOpt
