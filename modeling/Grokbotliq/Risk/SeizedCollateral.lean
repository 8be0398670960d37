import Grokbotliq.Kamino.CollateralOut
import Grokbotliq.Save.CloseFactor

/-!
# How much collateral a repayment seizes

Two adapters estimate the collateral, with one decimal scaling more in the one than in the other,
and narrow the quotient in the same way.

The condition for each function is that of its own module; here they stand side by side for two
amounts, since a result can be exact for the one and not for the other.
-/

namespace Grokbotliq

open MachineInt

/-- **When the estimates are exact**, for two repayments each: the formula over the integers,
stopped at the top of `u64`, and no less collateral for the larger repayment. -/
theorem collateral_exact_iff (t : Kamino.CollateralTerms) (ht : t.Sensible)
    (amount amount' : UInt64) (s : Save.SeizeTerms) (hs : s.Sensible) (usd usd' : ℕ)
    (husd : usd < 2 ^ 100) (husd' : usd' < 2 ^ 100) :
    (ReturnsInOrder (t.out (ε := Empty)) t.exactOut amount amount' ↔
        NarrowsExactly (t.numerator amount) t.denominator t.ceiling ∧
          NarrowsExactly (t.numerator amount') t.denominator t.ceiling) ∧
      (ReturnsInOrder (s.seized (ε := Empty)) s.exactSeized usd usd' ↔
        NarrowsExactly (s.numerator usd) s.collPriceUsdMicroPerToken maxU128 ∧
          NarrowsExactly (s.numerator usd') s.collPriceUsdMicroPerToken maxU128) := by
  constructor
  · rw [returnsInOrder_iff t.exactOut_mono, Kamino.CollateralTerms.returns_out_iff ht,
      Kamino.CollateralTerms.returns_out_iff ht]
  · rw [returnsInOrder_iff fun h => s.exactSeized_mono h,
      Save.SeizeTerms.returns_seized_iff hs husd, Save.SeizeTerms.returns_seized_iff hs husd']

/-- Tokens of one dollar, without decimals repaid and with one decimal withdrawn. -/
def dollarTerms : Kamino.CollateralTerms where
  repayDecimals := 0
  repayPrice := .ofNat 1000000000
  withdrawDecimals := 1
  withdrawPrice := .ofNat 1000000000
  bonusBps := 0

/-- A token of one micro-dollar without decimals. -/
def microTerms : Save.SeizeTerms where
  collPriceUsdMicroPerToken := 1
  collDecimals := 0
  bonusBps := 0

/-- Small repayments are exact and in order. -/
theorem collateral_exact_dollarTerms :
    ReturnsInOrder (dollarTerms.out (ε := Empty)) dollarTerms.exactOut 1 2 ∧
      ReturnsInOrder (microTerms.seized (ε := Empty)) microTerms.exactSeized 1 2 := by
  obtain ⟨hout, hseized⟩ := collateral_exact_iff dollarTerms ⟨by decide, by decide, by decide⟩ 1 2
    microTerms ⟨by decide, by decide, by decide⟩ 1 2 (by norm_num) (by norm_num)
  refine ⟨hout.2 ⟨?_, ?_⟩, hseized.2 ⟨?_, ?_⟩⟩
  all_goals exact ⟨fun _ => Or.inl (by decide +kernel), fun hden => absurd hden (by decide +kernel)⟩

/-- Half of the `u64` range, repaid, seizes nothing, and less than a single token does; so does a
value of `2 ^ 64`. -/
theorem collateral_wraps :
    dollarTerms.out (UInt64.ofNat (2 ^ 63)) = (.ok 0 : Outcome Empty UInt64) ∧
      dollarTerms.exactOut (UInt64.ofNat (2 ^ 63)) = 5 * 2 ^ 64 ∧
      dollarTerms.out 1 = (.ok 10 : Outcome Empty UInt64) ∧
      microTerms.seized (2 ^ 64) = (.ok 0 : Outcome Empty UInt64) ∧
      microTerms.exactSeized (2 ^ 64) = 2 ^ 64 ∧
      ¬ ReturnsInOrder (dollarTerms.out (ε := Empty)) dollarTerms.exactOut 1
        (UInt64.ofNat (2 ^ 63)) := by
  have hone : dollarTerms.out 1 = (.ok 10 : Outcome Empty UInt64) := by decide +kernel
  have hhalf : dollarTerms.out (UInt64.ofNat (2 ^ 63)) = (.ok 0 : Outcome Empty UInt64) := by
    decide +kernel
  refine ⟨hhalf, by decide +kernel, hone, by decide +kernel, by decide +kernel, fun h => ?_⟩
  exact absurd (h.mono (by decide) _ _ hone hhalf) (by decide)

end Grokbotliq
