import Grokbotliq.Core.PricedLegs
import Grokbotliq.Kamino.LiveHealth

/-!
# Planned health of a Kamino obligation

The health of an obligation at given prices, with the threshold each deposit carries.

An obligation is turned into two lists of legs, and everything about them is in
`Core/PricedLegs.lean`; the Save adapter does the same with its own records.
-/

namespace Grokbotliq.Kamino

structure KaminoDeposit where
  reserve : Pubkey
  mint : Pubkey
  depositedAmount : UInt64
  decimals : UInt8
  /-- Basis points: 8000 is 80%. -/
  liqThresholdBps : UInt16
  deriving DecidableEq

structure KaminoBorrow where
  reserve : Pubkey
  mint : Pubkey
  borrowedAmount : UInt64
  decimals : UInt8
  deriving DecidableEq

structure KaminoObligation where
  address : Pubkey
  market : Pubkey
  deposits : List KaminoDeposit
  borrows : List KaminoBorrow
  deriving DecidableEq

structure PriceMap where
  prices : List (Pubkey × PriceFx)

def PriceMap.get (m : PriceMap) (mint : Pubkey) : Option PriceFx := firstPrice m.prices mint

def KaminoDeposit.leg (d : KaminoDeposit) : DepositLeg where
  mint := d.mint
  amount := d.depositedAmount
  decimals := d.decimals
  liqThresholdBps := d.liqThresholdBps

def KaminoBorrow.leg (b : KaminoBorrow) : TokenLeg where
  mint := b.mint
  amount := b.borrowedAmount
  decimals := b.decimals

namespace KaminoObligation

def depositLegs (o : KaminoObligation) : List DepositLeg := o.deposits.map KaminoDeposit.leg

def borrowLegs (o : KaminoObligation) : List TokenLeg := o.borrows.map KaminoBorrow.leg

end KaminoObligation

def obligationHealth (o : KaminoObligation) (prices : PriceMap) :
    Outcome KaminoError (HealthFx × ℕ × ℕ) :=
  legsHealth prices.get .missingPrice o.depositLegs o.borrowLegs

def isLiquidatable (o : KaminoObligation) (prices : PriceMap) : Outcome KaminoError Bool :=
  legsLiquidatable prices.get .missingPrice o.depositLegs o.borrowLegs

lemma isLiquidatable_exact (o : KaminoObligation) (prices : PriceMap)
    (hcount : o.deposits.length ≤ liveMaxDeposits)
    (hreturns : isLiquidatable o prices ≠ .panic) :
    ExactVerdict prices.get KaminoError.missingPrice o.depositLegs o.borrowLegs
      (obligationHealth o prices) (isLiquidatable o prices) := by
  have hlegs : o.depositLegs.length ≤ 10 := by
    rw [KaminoObligation.depositLegs, List.length_map]
    exact hcount.trans (by decide)
  exact legsLiquidatable_exact hlegs hreturns

/-- **Prices against the borrower.**  Where `after` prices no deposit higher and no borrow lower
than `before` does, an obligation that is liquidatable at `before` is so at `after`. -/
theorem isLiquidatable_mono (o : KaminoObligation) (before after : PriceMap)
    (hcount : o.deposits.length ≤ liveMaxDeposits)
    (hdeposits : ∀ d ∈ o.deposits, ∀ px px', before.get d.mint = some px →
      after.get d.mint = some px' → px' ≤ px)
    (hborrows : ∀ b ∈ o.borrows, ∀ px px', before.get b.mint = some px →
      after.get b.mint = some px' → px ≤ px')
    (hbefore : isLiquidatable o before = .ok true) (b : Bool)
    (hafter : isLiquidatable o after = .ok b) : b = true := by
  have hlegs : o.depositLegs.length ≤ 10 := by
    rw [KaminoObligation.depositLegs, List.length_map]
    exact hcount.trans (by decide)
  refine legsLiquidatable_mono hlegs ?_ ?_ hbefore hafter
  · exact List.forall_mem_map.2 hdeposits
  · exact List.forall_mem_map.2 hborrows

/-- A unit of `1` backs one unit of `2`, both with six decimals. -/
def oneBacksOne : KaminoObligation where
  address := .default
  market := .default
  deposits := [⟨.default, .test 1 0, 1000000, 6, 8000⟩]
  borrows := [⟨.default, .test 2 0, 1000000, 6⟩]

/-- Prices of `1` and `2`. -/
def pricePair (deposited borrowed : ℕ) : PriceMap :=
  ⟨[(.test 1 0, .ofNat deposited), (.test 2 0, .ofNat borrowed)]⟩

/-- A dollar each, and then the collateral halves and the debt doubles. -/
theorem isLiquidatable_mono_oneBacksOne :
    ∃ b, isLiquidatable oneBacksOne (pricePair 500000000 2000000000) = .ok b ∧ b = true := by
  have hafter : isLiquidatable oneBacksOne (pricePair 500000000 2000000000) = .ok true := by
    decide +kernel
  refine ⟨true, hafter, ?_⟩
  refine isLiquidatable_mono oneBacksOne (pricePair 1000000000 1000000000) _ (by decide) ?_ ?_
    (by decide +kernel) true hafter
  · intro d hd px px' hpx hpx'
    obtain rfl := List.mem_singleton.1 hd
    cases hpx
    cases hpx'
    decide
  · intro b hb px px' hpx hpx'
    obtain rfl := List.mem_singleton.1 hb
    cases hpx
    cases hpx'
    decide

end Grokbotliq.Kamino
