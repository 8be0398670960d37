import Grokbotliq.Core.Health

/-!
# The indexed trigger price

`collateralTriggerPrice` inverts the health check in the price of one collateral: it solves
`power(p) = borrow`, where `power` floors the value of the collateral to micro-dollars and then
floors its weighted share, and it rounds the solution down.  Both floors make the position weaker
than the exact formula says, so it is liquidatable up to a price above the solution;
`lastLiquidatable` is the highest such price.

Products saturate; only the power of ten can overflow, from 39 decimals on.  There the two functions
panic, as they do in a build that checks overflow, and no statement of this file is about the
wrapped power of one that does not.  Up to 38 decimals all builds agree.
-/

namespace Grokbotliq

open MachineInt

section Trigger

variable (collAmount : ℕ) (collDecimals : UInt8) (liqThresholdFx : UInt64)
  (otherCollPowerUsdMicro borrowUsdMicro : ℕ)

/-- The health check at price `p`: the weighted collateral and the rest do not cover the debt. -/
def LiquidatableAt (p : PriceFx) : Prop :=
  ∃ usd, (amountToUsdMicro collAmount collDecimals p : Outcome Empty ℕ) = .ok usd ∧
    usd * liqThresholdFx.toNat / 1000000 + otherCollPowerUsdMicro < borrowUsdMicro

/-- The price is not above a trigger that is indexed. -/
def WokenAt (p : PriceFx) : Prop :=
  ∃ t, (collateralTriggerPrice collAmount collDecimals liqThresholdFx otherCollPowerUsdMicro
    borrowUsdMicro : Outcome Empty (Option PriceFx)) = .ok (some t) ∧ p ≤ t

/-- The divisor of the micro-dollar value. -/
def usdDivisor : ℕ := min (10 ^ collDecimals.toNat * PriceFx.scale) maxU128

/-- The least micro-dollar value of the collateral that covers the debt. -/
def coveringUsd : ℕ :=
  ((borrowUsdMicro - otherCollPowerUsdMicro) * 1000000) ⌈/⌉ liqThresholdFx.toNat

/-- The highest price at which the value of the collateral stays below the covering one; any price
where saturation keeps it there. -/
def lastLiquidatable : ℕ :=
  let bound := coveringUsd liqThresholdFx otherCollPowerUsdMicro borrowUsdMicro *
    usdDivisor collDecimals
  if maxU128 < bound then maxU128 else (bound - 1) / (collAmount * 1000000)

variable {collAmount collDecimals liqThresholdFx otherCollPowerUsdMicro borrowUsdMicro}

lemma usdDivisor_pos : 0 < usdDivisor collDecimals := by
  apply lt_min
  · exact Nat.mul_pos (Nat.pow_pos (by norm_num)) (by norm_num [PriceFx.scale])
  · norm_num [maxU128]

lemma lastLiquidatable_lt : lastLiquidatable collAmount collDecimals liqThresholdFx
    otherCollPowerUsdMicro borrowUsdMicro < 2 ^ 128 := by
  have hmax : maxU128 < 2 ^ 128 := by decide
  rw [lastLiquidatable]
  split_ifs with hsat
  · exact hmax
  · exact Nat.lt_of_le_of_lt ((Nat.div_le_self _ _).trans (by omega)) hmax

/-- The two floors of the check, undone from the outside in. -/
lemma liquidatableAt_iff (hamount : 0 < collAmount) (hthreshold : 0 < liqThresholdFx.toNat)
    (hdec : collDecimals.toNat ≤ 38) (hneed : otherCollPowerUsdMicro < borrowUsdMicro)
    (p : PriceFx) :
    LiquidatableAt collAmount collDecimals liqThresholdFx otherCollPowerUsdMicro borrowUsdMicro p ↔
      p.raw ≤ lastLiquidatable collAmount collDecimals liqThresholdFx otherCollPowerUsdMicro
        borrowUsdMicro := by
  set need := borrowUsdMicro - otherCollPowerUsdMicro with hneedDef
  set cover := coveringUsd liqThresholdFx otherCollPowerUsdMicro borrowUsdMicro with hcover
  -- The check, solved for the price: first without its usd value, then without the threshold, last
  -- without the saturation.
  have hcheck : LiquidatableAt collAmount collDecimals liqThresholdFx otherCollPowerUsdMicro
      borrowUsdMicro p ↔
      usdMicro collAmount collDecimals p * liqThresholdFx.toNat / 1000000 < need := by
    rw [LiquidatableAt, amountToUsdMicro_of_le hdec]
    constructor
    · rintro ⟨usd, hok, hlt⟩
      cases hok
      omega
    · intro hlt
      exact ⟨_, rfl, by omega⟩
  have hweighted : usdMicro collAmount collDecimals p * liqThresholdFx.toNat / 1000000 < need ↔
      usdMicro collAmount collDecimals p < cover := by
    rw [Nat.div_lt_iff_lt_mul (by norm_num), hcover, coveringUsd, ← not_le, ← not_le,
      ceilDiv_le_iff_le_mul hthreshold, mul_comm liqThresholdFx.toNat]
  have hvalue : usdMicro collAmount collDecimals p < cover ↔
      collAmount * p.raw * 1000000 < cover * usdDivisor collDecimals ∨
        maxU128 < cover * usdDivisor collDecimals := by
    rw [usdMicro, ← usdDivisor, Nat.div_lt_iff_lt_mul usdDivisor_pos, min_lt_iff]
  have hp : p.raw ≤ maxU128 := Nat.le_pred_of_lt p.raw_lt
  rw [hcheck, hweighted, hvalue, lastLiquidatable, ← hcover]
  split_ifs with hsat
  · simp only [hsat, or_true, hp]
  · have hpos : 0 < cover := by
      rw [hcover, coveringUsd, ← not_le, ceilDiv_le_iff_le_mul hthreshold]
      omega
    have hbound : 0 < cover * usdDivisor collDecimals := Nat.mul_pos hpos usdDivisor_pos
    rw [Nat.le_div_iff_mul_le (Nat.mul_pos hamount (by norm_num)), mul_left_comm, ← mul_assoc]
    omega

lemma collateralTriggerPrice_eq (hamount : 0 < collAmount) (hthreshold : 0 < liqThresholdFx.toNat)
    (hdec : collDecimals.toNat ≤ 38) (hneed : otherCollPowerUsdMicro < borrowUsdMicro) :
    ∃ t : PriceFx, (collateralTriggerPrice collAmount collDecimals liqThresholdFx
        otherCollPowerUsdMicro borrowUsdMicro : Outcome Empty (Option PriceFx)) = .ok (some t) ∧
      t.raw = min ((borrowUsdMicro - otherCollPowerUsdMicro) * 10 ^ (collDecimals.toNat + 9))
          maxU128 / min (collAmount * liqThresholdFx.toNat) maxU128 := by
  have hguard : ¬ (collAmount = 0 ∨ borrowUsdMicro ≤ otherCollPowerUsdMicro) := by omega
  have hden : ¬ satMulU128 collAmount liqThresholdFx.toNat = 0 := by
    have hpos : 0 < satMulU128 collAmount liqThresholdFx.toNat :=
      lt_min (Nat.mul_pos hamount hthreshold) (by norm_num [maxU128])
    exact hpos.ne'
  rw [collateralTriggerPrice, if_neg hguard, powTen_of_le hdec, Outcome.ok_bind, if_neg hden]
  refine ⟨_, rfl, ?_⟩
  show satMulU128 (satMulU128 _ _) PriceFx.scale / _ = _
  rw [satMulU128_satMulU128 _ _ (by norm_num [PriceFx.scale]), pow_add, ← mul_assoc]
  rfl

lemma wokenAt_iff (hamount : 0 < collAmount) (hthreshold : 0 < liqThresholdFx.toNat)
    (hdec : collDecimals.toNat ≤ 38) (hneed : otherCollPowerUsdMicro < borrowUsdMicro)
    (p : PriceFx) :
    WokenAt collAmount collDecimals liqThresholdFx otherCollPowerUsdMicro borrowUsdMicro p ↔
      p.raw * min (collAmount * liqThresholdFx.toNat) maxU128 ≤
        min ((borrowUsdMicro - otherCollPowerUsdMicro) * 10 ^ (collDecimals.toNat + 9))
          maxU128 := by
  obtain ⟨t, htrigger, hraw⟩ := collateralTriggerPrice_eq hamount hthreshold hdec hneed
  have hden : 0 < min (collAmount * liqThresholdFx.toNat) maxU128 :=
    lt_min (Nat.mul_pos hamount hthreshold) (by norm_num [maxU128])
  rw [← Nat.le_div_iff_mul_le hden, ← hraw, WokenAt, htrigger]
  constructor
  · rintro ⟨t', ht', hle⟩
    cases ht'
    exact hle
  · intro hle
    exact ⟨t, rfl, hle⟩

/-- **The trigger covers the check** exactly when the last liquidatable price does not exceed the
quotient the trigger is.  Without a need there is nothing to cover.  Nor is there with more than
38 decimals, where the power of ten overflows: that disjunct is about a build that checks overflow,
in which the health check panics at every price and so finds nothing to liquidate. -/
theorem wokenAt_of_liquidatableAt_iff (hamount : 0 < collAmount)
    (hthreshold : 0 < liqThresholdFx.toNat) :
    (∀ p, LiquidatableAt collAmount collDecimals liqThresholdFx otherCollPowerUsdMicro
        borrowUsdMicro p →
      WokenAt collAmount collDecimals liqThresholdFx otherCollPowerUsdMicro borrowUsdMicro p) ↔
    38 < collDecimals.toNat ∨ borrowUsdMicro ≤ otherCollPowerUsdMicro ∨
      lastLiquidatable collAmount collDecimals liqThresholdFx otherCollPowerUsdMicro
          borrowUsdMicro * min (collAmount * liqThresholdFx.toNat) maxU128 ≤
        min ((borrowUsdMicro - otherCollPowerUsdMicro) * 10 ^ (collDecimals.toNat + 9))
          maxU128 := by
  rcases Nat.lt_or_ge 38 collDecimals.toNat with hlarge | hdec
  · refine iff_of_true ?_ (.inl hlarge)
    rintro p ⟨usd, hok, -⟩
    rw [amountToUsdMicro_of_lt hlarge] at hok
    exact absurd hok (by simp)
  -- The highest liquidatable price decides: it is woken if and only if all below it are.
  rcases Nat.lt_or_ge otherCollPowerUsdMicro borrowUsdMicro with hneed | hcovered
  · have hiff := liquidatableAt_iff hamount hthreshold hdec hneed
    constructor
    · intro hall
      right
      right
      have hlast := hall ⟨_, lastLiquidatable_lt⟩ ((hiff _).2 le_rfl)
      exact (wokenAt_iff hamount hthreshold hdec hneed _).1 hlast
    · rintro (hlarge | hcovered | hle) p hp
      · omega
      · omega
      · apply (wokenAt_iff hamount hthreshold hdec hneed p).2
        exact (Nat.mul_le_mul_right _ ((hiff p).1 hp)).trans hle
  · refine iff_of_true ?_ (.inr (.inl hcovered))
    rintro p ⟨usd, -, hlt⟩
    omega

end Trigger

/-- A whole token with six decimals has to cover a dollar at a threshold of 100%.  The highest
price at which it does not is just below a dollar, the trigger. -/
theorem wokenAt_of_liquidatableAt_wholeToken :
    LiquidatableAt 1000000 6 1000000 0 1000000 (PriceFx.ofNat 999999999) ∧
      WokenAt 1000000 6 1000000 0 1000000 (PriceFx.ofNat 999999999) := by
  have hthreshold : 0 < (1000000 : UInt64).toNat := by decide
  have hliquidatable : LiquidatableAt 1000000 6 1000000 0 1000000 (PriceFx.ofNat 999999999) :=
    ⟨999999, by decide +kernel, by decide +kernel⟩
  refine ⟨hliquidatable, ?_⟩
  refine (wokenAt_of_liquidatableAt_iff (by norm_num) hthreshold).2 ?_ _ hliquidatable
  decide +kernel

/-- One unit of collateral without decimals at a threshold of 80%, and a debt of one micro-dollar:
the trigger is 1250, and at 1999 the collateral is still worth one micro-dollar, of which the
threshold leaves nothing. -/
theorem liquidatableAt_above_trigger :
    ∃ p : PriceFx, LiquidatableAt 1 0 800000 0 1 p ∧ ¬ WokenAt 1 0 800000 0 1 p := by
  have hthreshold : 0 < (800000 : UInt64).toNat := by decide
  have hdec : (0 : UInt8).toNat ≤ 38 := by decide
  refine ⟨PriceFx.ofNat 1999, ⟨1, ?_, ?_⟩, ?_⟩
  · decide
  · decide
  · rw [wokenAt_iff one_pos hthreshold hdec one_pos]
    decide

end Grokbotliq
