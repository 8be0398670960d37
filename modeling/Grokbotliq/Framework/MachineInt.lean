import Mathlib

/-!
# Saturating and truncating machine arithmetic

The operations on 64-bit integers that are neither Lean's wrapping ones nor exact.

Each is a function into the machine type itself, so that what is stored is what the code stores;
the lemmas say when the value is the exact one.  The 128-bit operations, whose types are modelled
by numbers, are in `Framework/CheckedInt.lean`.
-/

namespace Grokbotliq.MachineInt

/-- Saturating addition on `u64`. -/
def satAddU64 (a b : UInt64) : UInt64 :=
  if a.toNat + b.toNat < 2 ^ 64 then a + b else UInt64.ofNat (2 ^ 64 - 1)

/-- Against a bound below the top of the range saturation does not show. -/
lemma satAddU64_le_iff {a b c : UInt64} (hc : c.toNat < 2 ^ 64 - 1) :
    satAddU64 a b ≤ c ↔ a.toNat + b.toNat ≤ c.toNat := by
  rw [UInt64.le_iff_toNat_le, satAddU64]
  split_ifs with hfits
  · rw [UInt64.toNat_add, Nat.mod_eq_of_lt hfits]
  · have htop : (UInt64.ofNat (2 ^ 64 - 1)).toNat = 2 ^ 64 - 1 := rfl
    rw [htop]
    omega

lemma toNat_minU64 (a b : UInt64) : (min a b).toNat = min a.toNat b.toNat := by
  have hmin : min a b = if a ≤ b then a else b := rfl
  rw [hmin]
  split_ifs with hle
  · exact (Nat.min_eq_left (UInt64.le_iff_toNat_le.1 hle)).symm
  · rw [UInt64.le_iff_toNat_le] at hle
    omega

/-- Saturating multiplication on `u64`. -/
def satMulU64 (a b : UInt64) : UInt64 :=
  if a.toNat * b.toNat < 2 ^ 64 then a * b else UInt64.ofNat (2 ^ 64 - 1)

/-- `x as i64` for a `u64`: the same 64 bits, read as two's complement. -/
def asI64 (x : UInt64) : Int64 := x.toInt64

/-- `n as u64` for a wider unsigned integer: its low 64 bits. -/
def truncU64 (n : ℕ) : UInt64 := UInt64.ofNat n

/-- `z as u16` for a wider signed integer: its low 16 bits. -/
def truncU16 (z : ℤ) : UInt16 := UInt16.ofNat (z % 2 ^ 16).toNat

/-- `n as i64` for a wider signed integer: its low 64 bits. -/
def truncI64 (n : ℤ) : Int64 := Int64.ofInt n

end Grokbotliq.MachineInt
