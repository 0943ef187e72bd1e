import ValOpt.Text.Str

/-!
# UTF-16 and upper case

What the program does with texts that the system hands it in UTF-16: `fromUtf16Lossy` decodes them,
and `toUppercase` is used to look for ASCII words in them.
-/

namespace Text

/-- The code units of a text in memory, two bytes each.  A byte left over is dropped. -/
def unitsOf : List UInt8 → List UInt16
  | lo :: hi :: bytes => (lo.toUInt16 + hi.toUInt16 * 256) :: unitsOf bytes
  | _ => []

/-- A code unit by itself; half of a pair is replaced. -/
def decodeUnit (u : UInt16) : Char :=
  if 0xD800 ≤ u ∧ u ≤ 0xDFFF then Char.ofNat 0xFFFD else Char.ofNat u.toNat

/-- `String::from_utf16_lossy`. -/
def fromUtf16Lossy : List UInt16 → List Char
  | [] => []
  | [u] => [decodeUnit u]
  | u :: v :: units =>
    if (0xD800 ≤ u ∧ u ≤ 0xDBFF) ∧ (0xDC00 ≤ v ∧ v ≤ 0xDFFF) then
      Char.ofNat (0x10000 + (u.toNat - 0xD800) * 0x400 + (v.toNat - 0xDC00)) :: fromUtf16Lossy units
    else decodeUnit u :: fromUtf16Lossy (v :: units)

/-- `String::from_utf16`, which has no text for half of a pair. -/
def fromUtf16 : List UInt16 → Option (List Char)
  | [] => some []
  | [u] => if 0xD800 ≤ u ∧ u ≤ 0xDFFF then none else some [Char.ofNat u.toNat]
  | u :: v :: units =>
    if (0xD800 ≤ u ∧ u ≤ 0xDBFF) ∧ (0xDC00 ≤ v ∧ v ≤ 0xDFFF) then
      (fromUtf16 units).map
        (Char.ofNat (0x10000 + (u.toNat - 0xD800) * 0x400 + (v.toNat - 0xDC00)) :: ·)
    else if 0xD800 ≤ u ∧ u ≤ 0xDFFF then none
    else (fromUtf16 (v :: units)).map (Char.ofNat u.toNat :: ·)

/-- The upper case of a character, as far as it has letters of ASCII in it. -/
def upperChars (c : Char) : List Char :=
  match c.toNat with
  | 0x00DF => ['S', 'S']
  | 0x0131 => ['I']
  | 0x0149 => [Char.ofNat 0x02BC, 'N']
  | 0x017F => ['S']
  | 0x01F0 => ['J', Char.ofNat 0x030C]
  | 0x1E96 => ['H', Char.ofNat 0x0331]
  | 0x1E97 => ['T', Char.ofNat 0x0308]
  | 0x1E98 => ['W', Char.ofNat 0x030A]
  | 0x1E99 => ['Y', Char.ofNat 0x030A]
  | 0x1E9A => ['A', Char.ofNat 0x02BE]
  | 0xFB00 => ['F', 'F']
  | 0xFB01 => ['F', 'I']
  | 0xFB02 => ['F', 'L']
  | 0xFB03 => ['F', 'F', 'I']
  | 0xFB04 => ['F', 'F', 'L']
  | 0xFB05 => ['S', 'T']
  | 0xFB06 => ['S', 'T']
  | _ => [c.toUpper]

/-- `str::to_uppercase`, as far as it matters for a search for ASCII text. -/
def toUppercase (cs : List Char) : List Char := cs.flatMap upperChars

end Text
