import Grokbotliq.Core.Health
import Grokbotliq.Framework.Narrowing

/-!
# When a micro-dollar value is exact

`amount_to_usd_micro` multiplies up to the value in `10^-9` micro-dollars before it divides, and its
products stop at the top of `u128`.  A value that fits easily can therefore come out wrong, and
from 39 decimals on there is none (`usd_exact_iff`).

The product is cut before the division and the divisor beside it, each at the top of `u128`.  With
the divisor in range only the cut of the product can show, and it shows as a value that is too
low; beyond the range of the divisor the quotient is one or zero, which is right only by accident.
-/

namespace Grokbotliq

open MachineInt

variable (amount : ℕ) (decimals : UInt8) (price : PriceFx)

/-- `amount * price * 1e6`, over the integers. -/
def usdNumerator : ℕ := amount * price.raw * 1000000

/-- `10^decimals * 1e9`, over the integers. -/
def usdScale : ℕ := 10 ^ decimals.toNat * PriceFx.scale

/-- The value in micro-dollars, over the integers. -/
def exactUsdMicro : ℕ := usdNumerator amount price / usdScale decimals

/-- Every product on the way is the exact one. -/
structure Unsaturated : Prop where
  value : satMulU128 amount price.raw = amount * price.raw
  numerator : satMulU128 (satMulU128 amount price.raw) 1000000 = usdNumerator amount price
  scale : satMulU128 (10 ^ decimals.toNat) PriceFx.scale = usdScale decimals

/-- A value that fits is returned, without a saturation on the way. -/
structure ValuesExactly : Prop where
  returns : FitsU128 (exactUsdMicro amount decimals price) →
    (amountToUsdMicro amount decimals price : Outcome Empty ℕ) =
      .ok (exactUsdMicro amount decimals price)
  unsaturated : FitsU128 (exactUsdMicro amount decimals price) →
    Unsaturated amount decimals price

/-- The divisor fits, and so does the product before the division. -/
def RoomForUsd : Prop :=
  decimals.toNat ≤ 29 ∧ amount * price.raw * 1000000 < 2 ^ 128

instance : Decidable (RoomForUsd amount decimals price) := inferInstanceAs (Decidable (_ ∧ _))

variable {amount decimals price}

lemma satMulU128_eq_iff {a b : ℕ} : satMulU128 a b = a * b ↔ FitsU128 (a * b) := min_eq_left_iff

lemma fitsU128_usdScale_iff : FitsU128 (usdScale decimals) ↔ decimals.toNat ≤ 29 := by
  have hpow : usdScale decimals = 10 ^ (decimals.toNat + 9) := by
    rw [usdScale, PriceFx.scale, pow_add]
    rfl
  rw [hpow, fitsU128_pow_iff]
  omega

lemma fitsU128_iff {n : ℕ} : FitsU128 n ↔ n < 2 ^ 128 := by
  rw [FitsU128, maxU128]
  omega

/-- Nothing saturates exactly where there is room for the numerator and the divisor. -/
lemma unsaturated_iff :
    Unsaturated amount decimals price ↔ RoomForUsd amount decimals price := by
  constructor
  · intro h
    refine ⟨fitsU128_usdScale_iff.1 (satMulU128_eq_iff.1 h.scale), fitsU128_iff.1 ?_⟩
    have hnumerator := h.numerator
    rw [h.value] at hnumerator
    exact satMulU128_eq_iff.1 hnumerator
  · rintro ⟨hdecimals, hroom⟩
    have hfits : FitsU128 (amount * price.raw * 1000000) := fitsU128_iff.2 hroom
    have hvalue : satMulU128 amount price.raw = amount * price.raw :=
      satMulU128_eq_iff.2 ((Nat.le_mul_of_pos_right _ (by norm_num)).trans hfits)
    refine ⟨hvalue, ?_, satMulU128_eq_iff.2 (fitsU128_usdScale_iff.2 hdecimals)⟩
    rw [hvalue]
    exact satMulU128_eq_iff.2 hfits

/-- Where nothing saturates, the value is the exact one. -/
lemma amountToUsdMicro_of_room (h : RoomForUsd amount decimals price) :
    (amountToUsdMicro amount decimals price : Outcome Empty ℕ) =
      .ok (exactUsdMicro amount decimals price) := by
  have hscale : FitsU128 (usdScale decimals) := fitsU128_usdScale_iff.2 h.1
  have hnumerator : FitsU128 (usdNumerator amount price) := fitsU128_iff.2 h.2
  rw [amountToUsdMicro_of_le (h.1.trans (by norm_num)), exactUsdMicro]
  exact congrArg Outcome.ok (congrArg₂ _ (Nat.min_eq_left hnumerator) (Nat.min_eq_left hscale))

/-- **When the value is exact**, with nothing saturating on the way: for at most 29 decimals and a
product within `u128`, or where the exact value does not fit anyway. -/
theorem usd_exact_iff (amount : UInt64) (decimals : UInt8) (price : PriceFx) :
    ValuesExactly amount.toNat decimals price ↔
      ¬ FitsU128 (exactUsdMicro amount.toNat decimals price) ∨
        RoomForUsd amount.toNat decimals price := by
  constructor
  · intro h
    by_cases hfits : FitsU128 (exactUsdMicro amount.toNat decimals price)
    · exact Or.inr (unsaturated_iff.1 (h.unsaturated hfits))
    · exact Or.inl hfits
  · rintro (hlarge | hroom)
    · exact ⟨fun hfits => absurd hfits hlarge, fun hfits => absurd hfits hlarge⟩
    · exact ⟨fun _ => amountToUsdMicro_of_room hroom, fun _ => unsaturated_iff.2 hroom⟩

/-- The quotient that is computed, with the divisor out of range. -/
lemma usdMicro_of_lt (h : 29 < decimals.toNat) :
    usdMicro amount decimals price = exactUsdMicro amount decimals price ↔
      usdNumerator amount price < maxU128 ∨ usdScale decimals ≤ usdNumerator amount price ∧
        usdNumerator amount price < 2 * usdScale decimals := by
  have hout : maxU128 < usdScale decimals :=
    Nat.lt_of_not_le fun hfits => absurd (fitsU128_usdScale_iff.1 hfits) (Nat.not_le.2 h)
  have hquotient : usdMicro amount decimals price =
      if usdNumerator amount price < maxU128 ∨ maxU128 < maxU128 then 0 else 1 :=
    quotient_of_maxU128_lt le_rfl hout
  rw [hquotient, exactUsdMicro, eq_comm]
  split_ifs with hsmall
  · rw [Nat.div_eq_zero_iff]
    omega
  · rw [Nat.div_eq_iff (by omega)]
    omega

/-- When the value alone is exact: with the divisor in range, unless the stop of the numerator
shows in the quotient, and with the divisor out of range, below one or two micro-dollars. -/
theorem amountToUsdMicro_eq_exact_iff :
    (amountToUsdMicro amount decimals price : Outcome Empty ℕ) =
        .ok (exactUsdMicro amount decimals price) ↔
      decimals.toNat ≤ 38 ∧
        (decimals.toNat ≤ 29 →
          exactUsdMicro amount decimals price ≤ maxU128 / usdScale decimals) ∧
        (29 < decimals.toNat → usdNumerator amount price < maxU128 ∨
          usdScale decimals ≤ usdNumerator amount price ∧
            usdNumerator amount price < 2 * usdScale decimals) := by
  rw [amountToUsdMicro_eq_ok_iff, eq_comm]
  apply and_congr_right
  intro _
  rcases Nat.lt_or_ge 29 decimals.toNat with hout | hin
  · rw [usdMicro_of_lt hout]
    simp only [Nat.not_le.2 hout, false_implies, true_and, hout, true_implies]
  · have hscale : min (usdScale decimals) maxU128 = usdScale decimals :=
      Nat.min_eq_left (fitsU128_usdScale_iff.2 hin)
    have hquotient : usdMicro amount decimals price =
        min (exactUsdMicro amount decimals price) (maxU128 / usdScale decimals) := by
      show min (usdNumerator amount price) maxU128 / min (usdScale decimals) maxU128 = _
      rw [hscale, min_div, exactUsdMicro]
    rw [hquotient, min_eq_left_iff]
    simp only [hin, true_implies, Nat.not_lt.2 hin, false_implies, and_true]

/-- Ten billion tokens at a hundred thousand dollars: the value is 10^15 dollars, a third of which
is returned.  A token with 39 decimals has no value at all. -/
theorem large_value_is_cut :
    (amountToUsdMicro (UInt64.ofNat (10 ^ 19)).toNat 9 (.ofNat (10 ^ 14)) : Outcome Empty ℕ) =
        .ok 340282366920938463463 ∧
      exactUsdMicro (UInt64.ofNat (10 ^ 19)).toNat 9 (.ofNat (10 ^ 14)) = 10 ^ 21 ∧
      (amountToUsdMicro 0 39 (.ofNat 1) : Outcome Empty ℕ) = .panic ∧
      ¬ ValuesExactly (UInt64.ofNat (10 ^ 19)).toNat 9 (.ofNat (10 ^ 14)) := by
  have hreturned : (amountToUsdMicro (UInt64.ofNat (10 ^ 19)).toNat 9 (.ofNat (10 ^ 14)) :
      Outcome Empty ℕ) = .ok 340282366920938463463 := by decide +kernel
  have hexact : exactUsdMicro (UInt64.ofNat (10 ^ 19)).toNat 9 (.ofNat (10 ^ 14)) = 10 ^ 21 := by
    decide +kernel
  refine ⟨hreturned, hexact, by decide +kernel, fun h => ?_⟩
  have hvalue := h.returns (by rw [hexact]; decide)
  rw [hreturned, hexact] at hvalue
  exact absurd hvalue (by decide)

end Grokbotliq
