import Grokbotliq.Core.Types
import Grokbotliq.Framework.CheckedInt

/-!
# Health arithmetic

The fixed-point formulas of `health.rs`: a token amount in micro-dollars, the health factor of a
position, and the collateral price at which it would reach one.  Everything is a `u128` and
saturates, but for the powers of ten, which overflow from 39 decimals on, and for the last cast of
the health factor, which reads a `u128` as signed.

Two facts carry the protocol modules.  A micro-dollar value is at most a `10^9`-th of the `u128`
range (`usdMicro_le`), and with as much room above the collateral the scaled ratio is on the same
side of one as the collateral is of the debt (`isLiquidatable_healthFactorRatio_iff`).
-/

namespace Grokbotliq

open MachineInt

/-- `PriceFx::SCALE`. -/
def PriceFx.scale : ℕ := 1000000000

/-- The first price listed for the mint. -/
def firstPrice (prices : List (Pubkey × PriceFx)) (mint : Pubkey) : Option PriceFx :=
  (prices.find? fun entry => entry.1 = mint).map Prod.snd

namespace HealthFx

/-- `HealthFx::SCALE`. -/
def scale : ℕ := 1000000

def isLiquidatable (hf : HealthFx) : Bool := hf.raw < scale

end HealthFx

/-- HF = collateral / borrow, scale 1e6; without debt it is 1000. -/
def healthFactorRatio (collateralUsdMicro borrowUsdMicro : ℕ) : HealthFx :=
  if borrowUsdMicro = 0 then
    ⟨1000 * HealthFx.scale⟩
  else
    ⟨asI128 (satMulU128 collateralUsdMicro HealthFx.scale / borrowUsdMicro)⟩

variable {ε : Type}

/-- `10u128.pow(decimals)`. -/
def powTen (decimals : UInt8) : Outcome ε ℕ := checked FitsU128 (10 ^ decimals.toNat)

/-- `amount * price / 10^decimals`, in micro-dollars. -/
def amountToUsdMicro (amount : ℕ) (decimals : UInt8) (price : PriceFx) : Outcome ε ℕ := do
  let unit ← powTen decimals
  let den := satMulU128 unit PriceFx.scale
  return satMulU128 (satMulU128 amount price.raw) 1000000 / max den 1

/-- The price of the collateral at which HF is 1, everything else fixed. -/
def collateralTriggerPrice (collAmount : ℕ) (collDecimals : UInt8) (liqThresholdFx : UInt64)
    (otherCollPowerUsdMicro borrowUsdMicro : ℕ) : Outcome ε (Option PriceFx) :=
  if collAmount = 0 ∨ borrowUsdMicro ≤ otherCollPowerUsdMicro then
    .ok none
  else do
    let need := borrowUsdMicro - otherCollPowerUsdMicro
    let unit ← powTen collDecimals
    let num := satMulU128 (satMulU128 need unit) PriceFx.scale
    let den := satMulU128 collAmount liqThresholdFx.toNat
    if den = 0 then
      return none
    else
      return some ⟨num / den, Nat.lt_of_le_of_lt (Nat.div_le_self _ _) (satMulU128_lt _ _)⟩

/-! ## Powers of ten -/

lemma fitsU128_pow_iff {n : ℕ} : FitsU128 (10 ^ n) ↔ n ≤ 38 := by
  have hlow : FitsU128 (10 ^ 38) := by decide
  have hhigh : ¬ FitsU128 (10 ^ 39) := by decide
  constructor
  · intro hfits
    by_contra hn
    apply hhigh
    exact (Nat.pow_le_pow_right (by norm_num) (by omega)).trans hfits
  · intro hn
    exact (Nat.pow_le_pow_right (by norm_num) hn).trans hlow

lemma powTen_of_le {decimals : UInt8} (h : decimals.toNat ≤ 38) :
    (powTen decimals : Outcome ε ℕ) = .ok (10 ^ decimals.toNat) :=
  checked_eq_ok_iff.2 ⟨rfl, fitsU128_pow_iff.2 h⟩

lemma powTen_of_lt {decimals : UInt8} (h : 38 < decimals.toNat) :
    (powTen decimals : Outcome ε ℕ) = .panic :=
  if_neg fun hfits => absurd (fitsU128_pow_iff.1 hfits) (by omega)

/-! ## Micro-dollars -/

/-- What `amountToUsdMicro` returns when it does. -/
def usdMicro (amount : ℕ) (decimals : UInt8) (price : PriceFx) : ℕ :=
  min (amount * price.raw * 1000000) maxU128 / min (10 ^ decimals.toNat * PriceFx.scale) maxU128

lemma amountToUsdMicro_of_le {decimals : UInt8} (h : decimals.toNat ≤ 38) (amount : ℕ)
    (price : PriceFx) :
    (amountToUsdMicro amount decimals price : Outcome ε ℕ) =
      .ok (usdMicro amount decimals price) := by
  have hden : 0 < satMulU128 (10 ^ decimals.toNat) PriceFx.scale := by
    apply lt_min
    · exact Nat.mul_pos (Nat.pow_pos (by norm_num)) (by norm_num [PriceFx.scale])
    · norm_num [maxU128]
  rw [amountToUsdMicro, powTen_of_le h, Outcome.ok_bind, Outcome.pure_eq,
    satMulU128_satMulU128 _ _ (by norm_num), Nat.max_eq_left hden]
  rfl

lemma amountToUsdMicro_of_lt {decimals : UInt8} (h : 38 < decimals.toNat) (amount : ℕ)
    (price : PriceFx) : (amountToUsdMicro amount decimals price : Outcome ε ℕ) = .panic := by
  rw [amountToUsdMicro, powTen_of_lt h, Outcome.panic_bind]

lemma amountToUsdMicro_eq_ok_iff {amount : ℕ} {decimals : UInt8} {price : PriceFx} {usd : ℕ} :
    (amountToUsdMicro amount decimals price : Outcome ε ℕ) = .ok usd ↔
      decimals.toNat ≤ 38 ∧ usd = usdMicro amount decimals price := by
  rcases Nat.lt_or_ge 38 decimals.toNat with hlarge | hsmall
  · rw [amountToUsdMicro_of_lt hlarge]
    simp only [reduceCtorEq, false_iff]
    omega
  · rw [amountToUsdMicro_of_le hsmall, Outcome.ok.injEq, eq_comm]
    simp only [hsmall, true_and]

lemma amountToUsdMicro_ne_err {amount : ℕ} {decimals : UInt8} {price : PriceFx} {e : ε} :
    amountToUsdMicro amount decimals price ≠ .err e := by
  rcases Nat.lt_or_ge 38 decimals.toNat with hlarge | hsmall
  · rw [amountToUsdMicro_of_lt hlarge]
    simp only [ne_eq, reduceCtorEq, not_false_iff]
  · rw [amountToUsdMicro_of_le hsmall]
    simp only [ne_eq, reduceCtorEq, not_false_iff]

lemma usdMicro_mono (amount : ℕ) (decimals : UInt8) {p q : PriceFx} (h : p ≤ q) :
    usdMicro amount decimals p ≤ usdMicro amount decimals q := by
  have hraw : p.raw ≤ q.raw := h
  apply Nat.div_le_div_right
  apply min_le_min_right
  exact Nat.mul_le_mul_right _ (Nat.mul_le_mul_left _ hraw)

/-- The divisor is at least the scale of the price. -/
lemma usdMicro_le (amount : ℕ) (decimals : UInt8) (price : PriceFx) :
    usdMicro amount decimals price ≤ maxU128 / PriceFx.scale := by
  have hpow : 0 < 10 ^ decimals.toNat := Nat.pow_pos (by norm_num)
  have hscale : PriceFx.scale ≤ min (10 ^ decimals.toNat * PriceFx.scale) maxU128 :=
    le_min (Nat.le_mul_of_pos_left _ hpow) (by norm_num [PriceFx.scale, maxU128])
  exact Nat.div_le_div (Nat.min_le_right _ _) hscale (by norm_num [PriceFx.scale])

/-! ## The health factor -/

/-- With room for the scale the health factor is the exact ratio, rounded down. -/
lemma healthFactorRatio_raw {collateral borrow : ℕ} (hpos : 0 < borrow)
    (hroom : collateral * HealthFx.scale < 2 ^ 127) :
    (healthFactorRatio collateral borrow).raw = (collateral * HealthFx.scale / borrow : ℕ) := by
  have hsat : satMulU128 collateral HealthFx.scale = collateral * HealthFx.scale := by
    apply Nat.min_eq_left
    rw [maxU128]
    omega
  rw [healthFactorRatio, if_neg hpos.ne', hsat]
  exact asI128_of_lt (Nat.lt_of_le_of_lt (Nat.div_le_self _ _) hroom)

theorem isLiquidatable_healthFactorRatio_iff {collateral borrow : ℕ} (hpos : 0 < borrow)
    (hroom : collateral * HealthFx.scale < 2 ^ 127) :
    (healthFactorRatio collateral borrow).isLiquidatable = true ↔ collateral < borrow := by
  rw [HealthFx.isLiquidatable, decide_eq_true_iff, healthFactorRatio_raw hpos hroom, Nat.cast_lt,
    Nat.div_lt_iff_lt_mul hpos, mul_comm HealthFx.scale]
  exact Nat.mul_lt_mul_right (by norm_num [HealthFx.scale])

end Grokbotliq
