import Grokbotliq.Framework.Narrowing
import Grokbotliq.Core.Health
import Grokbotliq.Save.Health

/-!
# Sizing a liquidation on Save

How much of a borrow may be repaid at once, and how much collateral that buys.  Both products are
taken in 128 bits and narrowed to 64: the cap loses its high bits for a close factor above 100%
(`sizesExactly_iff`), the collateral for an amount that does not fit (`returns_seized_iff`).

The repay amount is a minimum of three, so a cap that lost its high bits does no harm where
another of the three is smaller still; `CapHolds` says exactly that.
-/

namespace Grokbotliq.Save

open MachineInt

/-! ## The repay amount -/

def maxRepay (borrowedAmount : UInt64) (closeFactorBps : UInt16) : UInt64 :=
  truncU64 (borrowedAmount.toNat * closeFactorBps.toNat / 10000)

/-- Choose repay amount: min(desired, close-factor cap, borrowed). -/
def sizeRepay (borrowedAmount desiredRepay : UInt64) (closeFactorBps : UInt16) :
    Outcome SaveError UInt64 :=
  let cap := maxRepay borrowedAmount closeFactorBps
  let amt := min (min desiredRepay cap) borrowedAmount
  if amt = 0 then .err .emptyRepay else .ok amt

/-- The close-factor cap over the integers. -/
def exactCap (borrowedAmount : UInt64) (closeFactorBps : UInt16) : ℕ :=
  borrowedAmount.toNat * closeFactorBps.toNat / 10000

/-- The smallest of the desired amount, the borrowed amount and the cap. -/
def exactRepay (borrowedAmount desiredRepay : UInt64) (closeFactorBps : UInt16) : ℕ :=
  min desiredRepay.toNat (min borrowedAmount.toNat (exactCap borrowedAmount closeFactorBps))

/-- The smallest of the three is returned unless it is nothing. -/
structure SizesExactly (borrowedAmount desiredRepay : UInt64) (closeFactorBps : UInt16) : Prop where
  ok : ∀ a, sizeRepay borrowedAmount desiredRepay closeFactorBps = .ok a ↔
    a.toNat = exactRepay borrowedAmount desiredRepay closeFactorBps ∧ 0 < a.toNat
  otherwise : exactRepay borrowedAmount desiredRepay closeFactorBps = 0 →
    sizeRepay borrowedAmount desiredRepay closeFactorBps = .err .emptyRepay

/-- The cap fits 64 bits, or what it loses does not make it the smallest of the three. -/
def CapHolds (borrowedAmount desiredRepay : UInt64) (closeFactorBps : UInt16) : Prop :=
  exactCap borrowedAmount closeFactorBps < 2 ^ 64 ∨
    min desiredRepay.toNat borrowedAmount.toNat ≤ exactCap borrowedAmount closeFactorBps % 2 ^ 64

instance (borrowedAmount desiredRepay : UInt64) (closeFactorBps : UInt16) :
    Decidable (CapHolds borrowedAmount desiredRepay closeFactorBps) :=
  inferInstanceAs (Decidable (_ ∨ _))

section Size

variable (borrowedAmount desiredRepay : UInt64) (closeFactorBps : UInt16)

/-- The amount that is chosen. -/
def chosenRepay : UInt64 :=
  min (min desiredRepay (maxRepay borrowedAmount closeFactorBps)) borrowedAmount

lemma sizeRepay_eq :
    sizeRepay borrowedAmount desiredRepay closeFactorBps =
      if chosenRepay borrowedAmount desiredRepay closeFactorBps = 0 then .err .emptyRepay
      else .ok (chosenRepay borrowedAmount desiredRepay closeFactorBps) := rfl

lemma toNat_chosenRepay :
    (chosenRepay borrowedAmount desiredRepay closeFactorBps).toNat =
      min (min desiredRepay.toNat (exactCap borrowedAmount closeFactorBps % 2 ^ 64))
        borrowedAmount.toNat := by
  rw [chosenRepay, toNat_minU64, toNat_minU64, maxRepay, toNat_truncU64]
  rfl

/-- It is the exact one exactly when the cap holds. -/
lemma toNat_chosenRepay_eq_iff :
    (chosenRepay borrowedAmount desiredRepay closeFactorBps).toNat =
        exactRepay borrowedAmount desiredRepay closeFactorBps ↔
      CapHolds borrowedAmount desiredRepay closeFactorBps := by
  have hborrowed : borrowedAmount.toNat < 2 ^ 64 := borrowedAmount.toNat_lt
  rw [toNat_chosenRepay, exactRepay, CapHolds]
  omega

variable {borrowedAmount desiredRepay closeFactorBps}

lemma sizeRepay_eq_ok_iff {a : UInt64} :
    sizeRepay borrowedAmount desiredRepay closeFactorBps = .ok a ↔
      chosenRepay borrowedAmount desiredRepay closeFactorBps = a ∧ 0 < a.toNat := by
  rw [sizeRepay_eq]
  split_ifs with hempty
  · refine ⟨fun h => absurd h (by simp), ?_⟩
    rintro ⟨rfl, hpos⟩
    rw [hempty] at hpos
    exact absurd hpos (lt_irrefl 0)
  · rw [Outcome.ok.injEq]
    refine ⟨?_, fun h => h.1⟩
    rintro rfl
    exact ⟨rfl, Nat.pos_of_ne_zero fun h => hempty (UInt64.toNat_inj.1 h)⟩

lemma sizeRepay_eq_emptyRepay_iff :
    sizeRepay borrowedAmount desiredRepay closeFactorBps = .err .emptyRepay ↔
      chosenRepay borrowedAmount desiredRepay closeFactorBps = 0 := by
  rw [sizeRepay_eq]
  split_ifs with hempty <;> simp [hempty]

variable (borrowedAmount desiredRepay closeFactorBps)

/-- **When the repay amount is sized exactly.** -/
theorem sizesExactly_iff :
    SizesExactly borrowedAmount desiredRepay closeFactorBps ↔
      CapHolds borrowedAmount desiredRepay closeFactorBps := by
  rw [← toNat_chosenRepay_eq_iff]
  constructor
  · intro h
    rcases Nat.eq_zero_or_pos (exactRepay borrowedAmount desiredRepay closeFactorBps) with h0 | hpos
    · rw [sizeRepay_eq_emptyRepay_iff.1 (h.otherwise h0), h0]
      rfl
    · have hfits : exactRepay borrowedAmount desiredRepay closeFactorBps < 2 ^ 64 :=
        lt_of_le_of_lt (Nat.min_le_left _ _) desiredRepay.toNat_lt
      have hofNat : (UInt64.ofNat (exactRepay borrowedAmount desiredRepay closeFactorBps)).toNat =
          exactRepay borrowedAmount desiredRepay closeFactorBps :=
        UInt64.toNat_ofNat_of_lt' hfits
      have hsized := (h.ok _).2 ⟨hofNat, hofNat.symm ▸ hpos⟩
      rw [(sizeRepay_eq_ok_iff.1 hsized).1, hofNat]
  · intro h
    refine ⟨fun a => ?_, fun h0 => ?_⟩
    · rw [sizeRepay_eq_ok_iff, ← h, ← UInt64.toNat_inj, eq_comm]
    · rw [sizeRepay_eq_emptyRepay_iff, ← UInt64.toNat_inj, h, h0]
      rfl

end Size

/-- Half of the `u64` range, borrowed, to be repaid at 200%. -/
theorem double_closeFactor_empties :
    sizeRepay (UInt64.ofNat (2 ^ 63)) 1 20000 = .err .emptyRepay ∧
      exactRepay (UInt64.ofNat (2 ^ 63)) 1 20000 = 1 ∧
      ¬ SizesExactly (UInt64.ofNat (2 ^ 63)) 1 20000 := by
  refine ⟨by decide, by decide, fun h => ?_⟩
  have hsized := (h.ok 1).2 (by decide)
  exact absurd hsized (by decide)

/-! ## The collateral -/

/-- Approximate collateral seized given liquidation bonus (bps). -/
def seizeCollateralAmount {ε : Type} (repayUsdMicro collPriceUsdMicroPerToken : ℕ)
    (collDecimals : UInt8) (bonusBps : UInt16) : Outcome ε UInt64 := do
  if collPriceUsdMicroPerToken = 0 then return 0
  else
    let raised ← checked FitsU128 (repayUsdMicro * (10000 + bonusBps.toNat))
    let withBonus := raised / 10000
    let unit ← powTen collDecimals
    let tokens := satMulU128 withBonus unit / collPriceUsdMicroPerToken
    return truncU64 tokens

/-- Everything a seizure is computed from but the repaid value. -/
structure SeizeTerms where
  collPriceUsdMicroPerToken : ℕ
  collDecimals : UInt8
  bonusBps : UInt16

namespace SeizeTerms

variable (t : SeizeTerms)

def seized {ε : Type} (repayUsdMicro : ℕ) : Outcome ε UInt64 :=
  seizeCollateralAmount repayUsdMicro t.collPriceUsdMicroPerToken t.collDecimals t.bonusBps

def numerator (repayUsdMicro : ℕ) : ℕ :=
  repayUsdMicro * (10000 + t.bonusBps.toNat) / 10000 * 10 ^ t.collDecimals.toNat

/-- The formula over the integers. -/
def exactSeized (repayUsdMicro : ℕ) : ℕ := t.numerator repayUsdMicro / t.collPriceUsdMicroPerToken

/-- The decimals are within 18, and the collateral has a price, which is a `u128`. -/
structure Sensible : Prop where
  decimals : t.collDecimals.toNat ≤ 18
  priced : 0 < t.collPriceUsdMicroPerToken
  price_le : t.collPriceUsdMicroPerToken ≤ maxU128

lemma exactSeized_mono : Monotone t.exactSeized := fun _ _ h =>
  Nat.div_le_div_right (Nat.mul_le_mul_right _ (Nat.div_le_div_right (Nat.mul_le_mul_right _ h)))

variable {t}

/-- **What is computed**, for a value that the raise leaves in range. -/
theorem seized_eq {ε : Type} (h : t.Sensible) {repayUsdMicro : ℕ}
    (hrepay : repayUsdMicro < 2 ^ 100) :
    (t.seized repayUsdMicro : Outcome ε UInt64) =
      .ok (truncU64 (min (t.numerator repayUsdMicro) maxU128 /
        min t.collPriceUsdMicroPerToken maxU128)) := by
  have hraised : FitsU128 (repayUsdMicro * (10000 + t.bonusBps.toNat)) := by
    have hbonus : t.bonusBps.toNat < 2 ^ 16 := t.bonusBps.toNat_lt
    exact (Nat.mul_le_mul hrepay.le (Nat.add_le_add_left hbonus.le 10000)).trans
      (by norm_num [maxU128])
  rw [seized, seizeCollateralAmount, if_neg h.priced.ne', checked_eq_ok_iff.2 ⟨rfl, hraised⟩,
    Outcome.ok_bind, powTen_of_le (h.decimals.trans (by norm_num)), Outcome.ok_bind,
    Nat.min_eq_left h.price_le]
  rfl

lemma returns_seized_iff {ε : Type} (h : t.Sensible) {repayUsdMicro : ℕ}
    (hrepay : repayUsdMicro < 2 ^ 100) :
    Returns (t.seized (ε := ε)) t.exactSeized repayUsdMicro ↔
      NarrowsExactly (t.numerator repayUsdMicro) t.collPriceUsdMicroPerToken maxU128 := by
  rw [returns_truncU64_iff (seized_eq h hrepay), exactSeized]
  exact low_quotient_eq_clamp_iff le_rfl

end SeizeTerms

end Grokbotliq.Save
