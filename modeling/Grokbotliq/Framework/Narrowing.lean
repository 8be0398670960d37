import Grokbotliq.Framework.CheckedInt
import Grokbotliq.Framework.MachineInt

/-!
# Wide quotients narrowed to 64 bits

A quotient is computed with a numerator that stops at `cap` and a divisor that stops at the top
of the `u128` range, and its low 64 bits are the result.  Meant is the exact quotient, stopped at
the top of the `u64` range.  The two are compared here, once for a divisor in range and once for
one that is not.

Truncation is exact in two cases, and the second is an accident: the number fits, or the low bits
of a number that was stopped happen to be the largest value (`low_min_eq_clamp_iff`).  The
condition is therefore exact only with both.  Order is a matter of its own, since low bits of
growing numbers may fall (`low_le_iff`).
-/

namespace Grokbotliq.MachineInt

def maxU64 : ℕ := 2 ^ 64 - 1

lemma toNat_truncU64 (n : ℕ) : (truncU64 n).toNat = n % 2 ^ 64 := UInt64.toNat_ofNat'

/-- The low 64 bits of a number that was stopped at `cap` are the exact number, stopped at the
top of `u64`: when the number fits and was not stopped, or when the bits happen to be all one. -/
lemma low_min_eq_clamp_iff (exact cap : ℕ) :
    min exact cap % 2 ^ 64 = min exact maxU64 ↔
      exact ≤ min cap maxU64 ∨ min exact cap % 2 ^ 64 = maxU64 := by
  rw [maxU64]
  omega

/-- Taking `y` from `x` borrows nothing from the words above the lowest. -/
def NoBorrow (x y : ℕ) : Prop := (x - y) / 2 ^ 64 = x / 2 ^ 64 - y / 2 ^ 64

instance (x y : ℕ) : Decidable (NoBorrow x y) := inferInstanceAs (Decidable (_ = _))

/-- The low bits of two numbers are in the order of the numbers. -/
lemma low_le_iff {x y : ℕ} (h : y ≤ x) : y % 2 ^ 64 ≤ x % 2 ^ 64 ↔ NoBorrow x y := by
  rw [NoBorrow]
  omega

/-- Division commutes with stopping the dividend. -/
lemma min_div (a b d : ℕ) : min a b / d = min (a / d) (b / d) := by
  have hmono : Monotone fun n : ℕ => n / d := fun _ _ h => Nat.div_le_div_right h
  exact hmono.map_min

/-- When the narrowed quotient is the exact one.  With the divisor in range: the exact quotient
fits and the numerator's stop does not show in it, or the low bits happen to be all one.  With
the divisor out of range the computed quotient is zero or one. -/
structure NarrowsExactly (num den cap : ℕ) : Prop where
  inRange : den ≤ maxU128 →
    num / den ≤ min (cap / den) maxU64 ∨ min (num / den) (cap / den) % 2 ^ 64 = maxU64
  outOfRange : maxU128 < den →
    num < den ∧ (num < maxU128 ∨ cap < maxU128) ∨ den ≤ num ∧ num < 2 * den ∧ maxU128 ≤ cap

/-- Out of range the divisor is as large as the greatest numerator. -/
lemma quotient_of_maxU128_lt {num den cap : ℕ} (hcap : cap ≤ maxU128) (hden : maxU128 < den) :
    min num cap / min den maxU128 = if num < maxU128 ∨ cap < maxU128 then 0 else 1 := by
  have hpos : 0 < maxU128 := by decide
  rw [Nat.min_eq_right hden.le]
  split_ifs with hsmall
  · exact Nat.div_eq_of_lt (by omega)
  · have htop : min num cap = maxU128 := by omega
    rw [htop, Nat.div_self hpos]

/-- **Narrowing is exact exactly then.** -/
theorem low_quotient_eq_clamp_iff {num den cap : ℕ} (hcap : cap ≤ maxU128) :
    min num cap / min den maxU128 % 2 ^ 64 = min (num / den) maxU64 ↔
      NarrowsExactly num den cap := by
  -- A denominator out of range makes the quotient zero or one; in range the two bounds meet.
  rcases Nat.lt_or_ge maxU128 den with hout | hin
  · have hzero : num / den = 0 ↔ num < den := by
      rw [Nat.div_eq_zero_iff]
      omega
    have hone : num / den = 1 ↔ den ≤ num ∧ num < 2 * den := by
      rw [Nat.div_eq_iff (by omega)]
      omega
    have hnarrow : NarrowsExactly num den cap ↔
        num < den ∧ (num < maxU128 ∨ cap < maxU128) ∨
          den ≤ num ∧ num < 2 * den ∧ maxU128 ≤ cap :=
      ⟨fun h => h.outOfRange hout, fun h => ⟨fun hle => absurd hle (Nat.not_le.2 hout), fun _ => h⟩⟩
    rw [quotient_of_maxU128_lt hcap hout, hnarrow]
    have hclamp : ∀ n, n ≤ 1 → (n = min (num / den) maxU64 ↔ num / den = n) := by
      intro n hn
      rw [maxU64]
      omega
    split_ifs with hsmall
    · rw [Nat.zero_mod, hclamp 0 (by omega), hzero]
      omega
    · rw [Nat.mod_eq_of_lt (by norm_num), hclamp 1 le_rfl, hone]
      omega
  · have hnarrow : NarrowsExactly num den cap ↔
        num / den ≤ min (cap / den) maxU64 ∨ min (num / den) (cap / den) % 2 ^ 64 = maxU64 :=
      ⟨fun h => h.inRange hin, fun h => ⟨fun _ => h, fun hlt => absurd hin (Nat.not_le.2 hlt)⟩⟩
    rw [Nat.min_eq_left hin, min_div, low_min_eq_clamp_iff, hnarrow]

/-! ## Functions that stop at the top -/

section Stopping

variable {ε α : Type*}

/-- `out` returns `exact x`, stopped at the top of `u64`. -/
def Returns (out : α → Outcome ε UInt64) (exact : α → ℕ) (x : α) : Prop :=
  ∃ n, out x = .ok n ∧ n.toNat = min (exact x) maxU64

lemma returns_truncU64_iff {out : α → Outcome ε UInt64} {exact : α → ℕ} {x : α} {wide : ℕ}
    (h : out x = .ok (truncU64 wide)) :
    Returns out exact x ↔ wide % 2 ^ 64 = min (exact x) maxU64 := by
  rw [Returns, h, ← toNat_truncU64]
  simp

/-- At `x` and `y` the exact values are returned, and from the smaller to the larger of the two
the result does not fall. -/
structure ReturnsInOrder [LE α] (out : α → Outcome ε UInt64) (exact : α → ℕ) (x y : α) : Prop where
  left : Returns out exact x
  right : Returns out exact y
  mono : x ≤ y → ∀ m n, out x = .ok m → out y = .ok n → m ≤ n

/-- Exact values of a function that does not fall are in order by themselves. -/
lemma returnsInOrder_iff [LE α] {out : α → Outcome ε UInt64} {exact : α → ℕ} {x y : α}
    (hmono : x ≤ y → exact x ≤ exact y) :
    ReturnsInOrder out exact x y ↔ Returns out exact x ∧ Returns out exact y := by
  constructor
  · exact fun h => ⟨h.left, h.right⟩
  · rintro ⟨hx, hy⟩
    refine ⟨hx, hy, fun hle m n hm hn => ?_⟩
    obtain ⟨m', hm', hexact⟩ := hx
    obtain ⟨n', hn', hexact'⟩ := hy
    obtain rfl := Outcome.ok.inj (hm'.symm.trans hm)
    obtain rfl := Outcome.ok.inj (hn'.symm.trans hn)
    rw [UInt64.le_iff_toNat_le, hexact, hexact']
    exact min_le_min_right _ (hmono hle)

end Stopping

end Grokbotliq.MachineInt
