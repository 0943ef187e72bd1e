import Mathlib.Algebra.Order.Ring.Nat
import Mathlib.Data.List.Infix
import Mathlib.Tactic.Common
import Mathlib.Tactic.Ring

/-!
# Numbers in memory

`leBytes w n` are the `w` low bytes of a number, lowest first, and `readLe` reads a number at an
offset of a block of memory, where nothing can be read past the end.  What is written at an offset
is read there (`readLe_field`), and what lies before or behind it does not matter
(`readLe_of_append`).
-/

namespace Bytes

/-- The number that bytes stand for, lowest first. -/
def leValue : List UInt8 → ℕ
  | [] => 0
  | b :: bs => b.toNat + 256 * leValue bs

/-- The `w` low bytes of a number, lowest first. -/
def leBytes : (w n : ℕ) → List UInt8
  | 0, _ => []
  | w + 1, n => UInt8.ofNat n :: leBytes w (n / 256)

/-- The number in the `w` bytes at an offset. -/
def readLe (bytes : List UInt8) (offset w : ℕ) : Option ℕ :=
  if offset + w ≤ bytes.length then some (leValue ((bytes.drop offset).take w)) else none

@[simp] theorem length_leBytes (w n : ℕ) : (leBytes w n).length = w := by
  induction w generalizing n with
  | zero => rfl
  | succ w ih => rw [leBytes, List.length_cons, ih]

theorem leValue_leBytes {w n : ℕ} (h : n < 256 ^ w) : leValue (leBytes w n) = n := by
  induction w generalizing n with
  | zero =>
    rw [pow_zero] at h
    rw [leBytes, leValue]
    omega
  | succ w ih =>
    have hdiv : n / 256 < 256 ^ w := by
      rw [pow_succ] at h
      exact Nat.div_lt_of_lt_mul (by rwa [Nat.mul_comm])
    rw [leBytes, leValue, ih hdiv, UInt8.toNat_ofNat']
    omega

/-- What is written is read, whatever is before it and behind it. -/
theorem readLe_field (before after : List UInt8) {offset w n : ℕ}
    (hoffset : before.length = offset) (h : n < 256 ^ w) :
    readLe (before ++ (leBytes w n ++ after)) offset w = some n := by
  have hlen : offset + w ≤ (before ++ (leBytes w n ++ after)).length := by
    rw [List.length_append, List.length_append, length_leBytes]
    omega
  rw [readLe, if_pos hlen, List.drop_left' hoffset, List.take_left' (length_leBytes w n),
    leValue_leBytes h]

/-- A first part of the memory is enough. -/
theorem readLe_of_append {part bytes : List UInt8} {offset w : ℕ} (h : part <+: bytes)
    (hlen : offset + w ≤ part.length) : readLe part offset w = readLe bytes offset w := by
  obtain ⟨rest, rfl⟩ := h
  have hlen' : offset + w ≤ (part ++ rest).length := by
    rw [List.length_append]
    omega
  have hdrop : (part ++ rest).drop offset = part.drop offset ++ rest :=
    List.drop_append_of_le_length (by omega)
  rw [readLe, readLe, if_pos hlen, if_pos hlen', hdrop, List.take_append_of_le_length]
  rw [List.length_drop]
  omega

end Bytes
