import Grokbotliq.Core.Health
import Grokbotliq.Framework.Narrowing

/-!
# Collateral received for a repayment on Kamino

The repaid value, raised by the bonus and divided by the price of the collateral.  The products
saturate at 128 bits and the quotient is narrowed to 64; `collateralOutAmount_eq` says in one
equation what that comes to, and `returns_out_iff` when it is the formula over the integers.

Saturation comes to a single stop of the numerator (`out_eq`).  What is then left is the narrowing
of a quotient, and that is `Framework/Narrowing.lean`.
-/

namespace Grokbotliq.Kamino

open MachineInt

variable {ε : Type}

/-- Collateral received ~= repay_value * (1 + bonus_bps/10000) / withdraw_price. -/
def collateralOutAmount (repayAmount : UInt64) (repayDecimals : UInt8) (repayPrice : PriceFx)
    (withdrawDecimals : UInt8) (withdrawPrice : PriceFx) (bonusBps : UInt16) :
    Outcome ε UInt64 := do
  let repayUsd ← amountToUsdMicro repayAmount.toNat repayDecimals repayPrice
  let raised ← checked FitsU128 (repayUsd * (10000 + bonusBps.toNat))
  let withBonus := raised / 10000
  let unit ← powTen withdrawDecimals
  let num := satMulU128 (satMulU128 withBonus unit) PriceFx.scale
  let den := satMulU128 withdrawPrice.raw 1000000
  if den = 0 then return 0
  else return truncU64 (num / den)

/-- Everything a repayment is converted with but its amount. -/
structure CollateralTerms where
  repayDecimals : UInt8
  repayPrice : PriceFx
  withdrawDecimals : UInt8
  withdrawPrice : PriceFx
  bonusBps : UInt16

namespace CollateralTerms

variable (t : CollateralTerms)

def out (repayAmount : UInt64) : Outcome ε UInt64 :=
  collateralOutAmount repayAmount t.repayDecimals t.repayPrice t.withdrawDecimals t.withdrawPrice
    t.bonusBps

/-! ## The formula over the integers -/

/-- A value in micro-dollars, times the scale of the price, with the bonus on it. -/
def withBonus (scaledUsd : ℕ) : ℕ :=
  scaledUsd / (10 ^ t.repayDecimals.toNat * PriceFx.scale) * (10000 + t.bonusBps.toNat) / 10000

def scaledUp (value : ℕ) : ℕ := value * 10 ^ t.withdrawDecimals.toNat * PriceFx.scale

def numerator (repayAmount : UInt64) : ℕ :=
  t.scaledUp (t.withBonus (repayAmount.toNat * t.repayPrice.raw * 1000000))

def denominator : ℕ := t.withdrawPrice.raw * 1000000

def exactOut (repayAmount : UInt64) : ℕ := t.numerator repayAmount / t.denominator

/-- The largest numerator that saturation lets through. -/
def ceiling : ℕ := min (t.scaledUp (t.withBonus maxU128)) maxU128

/-- The decimals are within 18, and the collateral has a price. -/
structure Sensible : Prop where
  repayDecimals : t.repayDecimals.toNat ≤ 18
  withdrawDecimals : t.withdrawDecimals.toNat ≤ 18
  priced : 0 < t.withdrawPrice.raw

lemma withBonus_mono : Monotone t.withBonus := fun _ _ h =>
  Nat.div_le_div_right (Nat.mul_le_mul_right _ (Nat.div_le_div_right h))

lemma scaledUp_mono : Monotone t.scaledUp := fun _ _ h =>
  Nat.mul_le_mul_right _ (Nat.mul_le_mul_right _ h)

lemma exactOut_mono {a b : UInt64} (h : a ≤ b) : t.exactOut a ≤ t.exactOut b := by
  apply Nat.div_le_div_right
  apply t.scaledUp_mono
  apply t.withBonus_mono
  exact Nat.mul_le_mul_right _ (Nat.mul_le_mul_right _ (UInt64.le_iff_toNat_le.1 h))

variable {t}

/-- **What is computed**: the quotient with the numerator stopped at the ceiling. -/
theorem out_eq (h : t.Sensible) (repayAmount : UInt64) :
    (t.out repayAmount : Outcome ε UInt64) =
      .ok (truncU64 (min (t.numerator repayAmount) t.ceiling / min t.denominator maxU128)) := by
  have hscale : 0 < PriceFx.scale := by norm_num [PriceFx.scale]
  -- Up to eighteen decimals the power of ten is far from the bound, so only the products saturate.
  have hunit : 10 ^ t.repayDecimals.toNat * PriceFx.scale ≤ maxU128 := by
    have hpow : 10 ^ t.repayDecimals.toNat ≤ 10 ^ 18 :=
      Nat.pow_le_pow_right (by norm_num) h.repayDecimals
    exact (Nat.mul_le_mul_right _ hpow).trans (by norm_num [PriceFx.scale, maxU128])
  have husd : usdMicro repayAmount.toNat t.repayDecimals t.repayPrice =
      min (repayAmount.toNat * t.repayPrice.raw * 1000000) maxU128 /
        (10 ^ t.repayDecimals.toNat * PriceFx.scale) := by
    rw [usdMicro, Nat.min_eq_left hunit]
  have hraised : FitsU128 (usdMicro repayAmount.toNat t.repayDecimals t.repayPrice *
      (10000 + t.bonusBps.toNat)) := by
    have hle := usdMicro_le repayAmount.toNat t.repayDecimals t.repayPrice
    have hbonus : t.bonusBps.toNat < 2 ^ 16 := t.bonusBps.toNat_lt
    exact (Nat.mul_le_mul hle (Nat.add_le_add_left hbonus.le 10000)).trans
      (by norm_num [PriceFx.scale, maxU128])
  -- Saturating step by step is saturating once, at the ceiling carried through the steps.
  have hnum : satMulU128 (satMulU128 (usdMicro repayAmount.toNat t.repayDecimals t.repayPrice *
      (10000 + t.bonusBps.toNat) / 10000) (10 ^ t.withdrawDecimals.toNat)) PriceFx.scale =
      min (t.numerator repayAmount) t.ceiling := by
    rw [satMulU128_satMulU128 _ _ hscale, husd, ceiling, ← min_assoc, numerator,
      ← t.scaledUp_mono.map_min, ← t.withBonus_mono.map_min]
    rfl
  have hden : satMulU128 t.withdrawPrice.raw 1000000 ≠ 0 := by
    have hpos := h.priced
    rw [satMulU128, maxU128]
    omega
  rw [out, collateralOutAmount, amountToUsdMicro_of_le (h.repayDecimals.trans (by norm_num)),
    Outcome.ok_bind, checked_eq_ok_iff.2 ⟨rfl, hraised⟩, Outcome.ok_bind,
    powTen_of_le (h.withdrawDecimals.trans (by norm_num)), Outcome.ok_bind]
  simp only [hnum, hden, if_false, Outcome.pure_eq]
  rfl

lemma returns_out_iff (h : t.Sensible) (repayAmount : UInt64) :
    Returns (t.out (ε := ε)) t.exactOut repayAmount ↔
      NarrowsExactly (t.numerator repayAmount) t.denominator t.ceiling := by
  rw [returns_truncU64_iff (out_eq h repayAmount), exactOut]
  exact low_quotient_eq_clamp_iff (Nat.min_le_right _ _)

end CollateralTerms

end Grokbotliq.Kamino
