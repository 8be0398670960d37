import Grokbotliq.Kamino.Health
import Grokbotliq.Save.Health

/-!
# The verdict of both adapters

The adapters share their arithmetic, so one bound serves both: the eight deposits of a Kamino
obligation and the ten of a Save one leave room for the scale of the health factor.

The numbers of legs are the bounds of the two protocols.  A health computation may still panic,
for a token with too many decimals; the statement is about the computations that return.
-/

namespace Grokbotliq

/-- **Exact verdicts.**  Whenever a health computation returns, its verdict compares the exact sums
of the floored values, and it is an error exactly where a leg that is not empty has no price. -/
theorem verdicts_exact :
    (∀ (o : Kamino.KaminoObligation) (prices : Kamino.PriceMap), o.deposits.length ≤ 8 →
      Kamino.isLiquidatable o prices ≠ .panic →
      ExactVerdict prices.get Kamino.KaminoError.missingPrice o.depositLegs o.borrowLegs
        (Kamino.obligationHealth o prices) (Kamino.isLiquidatable o prices)) ∧
    ∀ (o : Save.SaveObligation) (prices : Save.SavePrices), o.deposits.length ≤ 10 →
      Save.isLiquidatable o prices ≠ .panic →
      ExactVerdict prices.get Save.SaveError.missingPrice o.depositLegs o.borrowLegs
        (Save.obligationHealth o prices) (Save.isLiquidatable o prices) := by
  constructor
  · intro o prices hcount hreturns
    exact Kamino.isLiquidatable_exact o prices hcount hreturns
  · intro o prices hcount hreturns
    exact Save.isLiquidatable_exact o prices hcount hreturns

/-- At a dollar each, eighty cents do not cover a dollar. -/
theorem verdicts_exact_oneBacksOne :
    Kamino.isLiquidatable Kamino.oneBacksOne (Kamino.pricePair 1000000000 1000000000) = .ok true ∧
      ExactVerdict (Kamino.pricePair 1000000000 1000000000).get Kamino.KaminoError.missingPrice
        Kamino.oneBacksOne.depositLegs Kamino.oneBacksOne.borrowLegs
        (Kamino.obligationHealth Kamino.oneBacksOne (Kamino.pricePair 1000000000 1000000000))
        (Kamino.isLiquidatable Kamino.oneBacksOne (Kamino.pricePair 1000000000 1000000000)) := by
  have hverdict : Kamino.isLiquidatable Kamino.oneBacksOne
      (Kamino.pricePair 1000000000 1000000000) = .ok true := by
    decide +kernel
  refine ⟨hverdict, verdicts_exact.1 _ _ (by decide) ?_⟩
  rw [hverdict]
  simp only [ne_eq, reduceCtorEq, not_false_iff]

end Grokbotliq
