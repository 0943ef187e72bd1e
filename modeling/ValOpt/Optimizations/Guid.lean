import ValOpt.Text.Radix
import ValOpt.Text.Str

/-!
# Power scheme GUIDs and their text

`Guid` is the four-part GUID of the Win32 headers.  `guidToString` writes the hyphenated form that
transactions and snapshots store, `stringToGuid` reads it back; `Equiv/Guid.lean` proves that
nothing is lost on the way.
-/

namespace ValOpt

open Text

/-- A Win32 GUID. -/
structure Guid where
  data1 : UInt32
  data2 : UInt16
  data3 : UInt16
  data4 : Vector UInt8 8
  deriving DecidableEq, Repr

/-- `GUID::from_u128`. -/
def Guid.fromU128 (n : ℕ) : Guid where
  data1 := UInt32.ofNat (n / 2 ^ 96)
  data2 := UInt16.ofNat (n / 2 ^ 80)
  data3 := UInt16.ofNat (n / 2 ^ 64)
  data4 := #v[UInt8.ofNat (n / 2 ^ 56), UInt8.ofNat (n / 2 ^ 48), UInt8.ofNat (n / 2 ^ 40),
    UInt8.ofNat (n / 2 ^ 32), UInt8.ofNat (n / 2 ^ 24), UInt8.ofNat (n / 2 ^ 16),
    UInt8.ofNat (n / 2 ^ 8), UInt8.ofNat n]

/-- High Performance plan. -/
def highPerformanceGuid : Guid := .fromU128 0x8c5e7fdae8bf4a969a85a6e23a8c635c

/-- Ultimate Performance plan. -/
def ultimatePerformanceGuid : Guid := .fromU128 0xe9a42b02d5df448daa0003f14749eb61

/-- The two digits of a byte. -/
def hexByte (b : UInt8) : List Char := hexFixed 2 b.toNat

/-- The five hyphen-separated groups of a GUID. -/
def guidGroups (g : Guid) : List (List Char) :=
  [hexFixed 8 g.data1.toNat, hexFixed 4 g.data2.toNat, hexFixed 4 g.data3.toNat,
    hexByte g.data4[0] ++ hexByte g.data4[1],
    hexByte g.data4[2] ++ hexByte g.data4[3] ++ hexByte g.data4[4] ++ hexByte g.data4[5] ++
      hexByte g.data4[6] ++ hexByte g.data4[7]]

/-- `guid_to_string`: the standard hyphenated form. -/
def guidToString (g : Guid) : String := String.ofList (['-'].intercalate (guidGroups g))

/-- The byte `i` of the last group, of six bytes, read as the number `p4`. -/
def groupByte (p4 i : ℕ) : UInt8 := UInt8.ofNat ((p4 >>> (8 * (5 - i))) &&& 0xFF)

/-- `string_to_guid`: white space around the text and braces around that are ignored. -/
def stringToGuid (s : String) : Except String Guid :=
  let clean := trimMatches (· == '}') (trimMatches (· == '{') (trimMatches isWhitespace s.toList))
  match clean.splitOn '-' with
  | [part0, part1, part2, part3, part4] => do
    let d1 ← (fromStrRadix16 (2 ^ 32) part0).mapError IntErrorKind.message
    let d2 ← (fromStrRadix16 (2 ^ 16) part1).mapError IntErrorKind.message
    let d3 ← (fromStrRadix16 (2 ^ 16) part2).mapError IntErrorKind.message
    let p3 ← (fromStrRadix16 (2 ^ 16) part3).mapError IntErrorKind.message
    let p4 ← (fromStrRadix16 (2 ^ 64) part4).mapError IntErrorKind.message
    return { data1 := UInt32.ofNat d1
             data2 := UInt16.ofNat d2
             data3 := UInt16.ofNat d3
             data4 := #v[UInt8.ofNat (p3 >>> 8), UInt8.ofNat (p3 &&& 0xFF), groupByte p4 0,
               groupByte p4 1, groupByte p4 2, groupByte p4 3, groupByte p4 4, groupByte p4 5] }
  | _ => .error ("Invalid GUID string: " ++ s)

end ValOpt
