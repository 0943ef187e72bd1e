import ValOpt.Models.Snapshot

/-!
# Signatures of snapshots

`constantTimeEq` decides equality (`constantTimeEq_iff`), and a snapshot that was signed with a key
passes both checks under that key (`verifyHmac_signWithKey`, `computePayloadHash_signWithKey`).
-/

namespace ValOpt

/-! ### Comparison in constant time -/

/-- The bits collected so far are zero iff all pairs were equal. -/
theorem foldl_diff_eq_zero_iff (pairs : List (UInt8 × UInt8)) (acc : UInt8) :
    pairs.foldl (fun diff p => diff ||| (p.1 ^^^ p.2)) acc = 0 ↔
      acc = 0 ∧ ∀ p ∈ pairs, p.1 = p.2 := by
  induction pairs generalizing acc with
  | nil => simp
  | cons p pairs ih =>
    rw [List.foldl_cons, ih]
    have hor : (acc ||| (p.1 ^^^ p.2)) = 0 ↔ acc = 0 ∧ p.1 = p.2 := by
      rw [UInt8.or_eq_zero_iff, UInt8.xor_eq_zero_iff]
    rw [hor, List.forall_mem_cons, and_assoc]

theorem constantTimeEq_iff (a b : Bytes) : constantTimeEq a b = true ↔ a = b := by
  unfold constantTimeEq
  by_cases hlen : a.length = b.length
  · rw [if_neg (not_not_intro hlen), beq_iff_eq, foldl_diff_eq_zero_iff]
    constructor
    · rintro ⟨-, h⟩
      apply List.ext_getElem hlen
      intro i ha hb
      exact h (a[i], b[i]) (List.mem_iff_getElem.mpr ⟨i, by simp; omega, by simp⟩)
    · rintro rfl
      refine ⟨rfl, ?_⟩
      intro p hp
      obtain ⟨i, hi, rfl⟩ := List.mem_iff_getElem.mp hp
      simp
  · rw [if_pos hlen]
    constructor
    · rintro ⟨⟩
    · intro h
      exact absurd (congrArg List.length h) hlen

theorem asBytes_injective : Function.Injective asBytes := by
  intro s t h
  have hbytes : s.toUTF8 = t.toUTF8 := by
    apply ByteArray.ext
    exact Array.toList_inj.mp h
  exact String.toByteArray_inj.mp hbytes

/-! ### Hexadecimal digests -/

theorem hexText_ne_empty {b : Bytes} (h : b ≠ []) : hexText b ≠ "" := by
  obtain ⟨x, b, rfl⟩ := List.exists_cons_of_ne_nil h
  intro he
  have hlist := congrArg String.toList he
  simp only [hexText, String.toList_ofList, List.flatMap_cons] at hlist
  have hlen := congrArg List.length hlist
  rw [List.length_append, Text.length_hexFixed] at hlen
  simp at hlen

theorem hexText_injective : Function.Injective hexText := by
  intro a
  induction a with
  | nil =>
    intro b h
    by_contra hne
    exact hexText_ne_empty (Ne.symm hne) h.symm
  | cons x a ih =>
    intro b h
    cases b with
    | nil => exact absurd h (hexText_ne_empty (List.cons_ne_nil x a))
    | cons y b =>
      have hlist := congrArg String.toList h
      simp only [hexText, String.toList_ofList, List.flatMap_cons] at hlist
      -- both digits of the first byte, then the rest
      obtain ⟨hdigits, hrest⟩ := List.append_inj hlist (by simp)
      have hxy : x.toNat = y.toNat := Text.hexFixed_inj x.toNat_lt y.toNat_lt hdigits
      rw [UInt8.toNat_inj.mp hxy, ih (congrArg String.ofList hrest)]

/-! ### Signing -/

theorem length_computeHmacSha256 {sha256 : Bytes → Bytes} (h : ∀ b, (sha256 b).length = 32)
    (key message : Bytes) : (computeHmacSha256 sha256 key message).length = 32 := by
  unfold computeHmacSha256
  exact h _

namespace SystemStateSnapshot

variable {P : Platform} (key : Bytes) (s : SystemStateSnapshot)

/-- The payload that is signed does not contain the signatures. -/
@[simp] theorem canonicalPayloadBytes_signWithKey :
    (s.signWithKey P key).canonicalPayloadBytes P = s.canonicalPayloadBytes P := rfl

/-- The hash of a signed snapshot is that of its payload. -/
theorem computePayloadHash_signWithKey :
    (s.signWithKey P key).computePayloadHash P = (s.signWithKey P key).sha256Hash := rfl

/-- A digest is never empty, so neither is a signature. -/
theorem hmacSignature_signWithKey_ne (hP : P.Lawful) :
    (s.signWithKey P key).hmacSignature ≠ "" := by
  refine hexText_ne_empty ?_
  intro hnil
  have hlen := length_computeHmacSha256 hP.length_sha256 key
    (({ s with sha256Hash := s.computePayloadHash P } :
      SystemStateSnapshot).canonicalPayloadBytes P)
  rw [hnil] at hlen
  cases hlen

/-- A signed snapshot passes the check of its signature. -/
theorem verifyHmac_signWithKey (hP : P.Lawful) :
    (s.signWithKey P key).verifyHmac P key = true := by
  unfold verifyHmac
  rw [if_neg (hmacSignature_signWithKey_ne key s hP), constantTimeEq_iff]
  rfl

end SystemStateSnapshot

end ValOpt
