import Grokbotliq.Core.PricedLegs

/-!
# Planned health of a Save obligation

The loops are those of the Kamino adapter; only the records differ.

A deposit carries its threshold in the same unit, so both records come to the same kind of legs.
What holds of both adapters is stated of both at once in `Risk/HealthVerdict.lean`.
-/

namespace Grokbotliq.Save

inductive SaveError
  | missingPrice
  | emptyRepay
  deriving DecidableEq

structure SaveDeposit where
  reserve : Pubkey
  mint : Pubkey
  depositedAmount : UInt64
  decimals : UInt8
  liqThresholdBps : UInt16
  liqBonusBps : UInt16
  deriving DecidableEq

structure SaveBorrow where
  reserve : Pubkey
  mint : Pubkey
  borrowedAmount : UInt64
  decimals : UInt8
  deriving DecidableEq

structure SaveObligation where
  address : Pubkey
  lendingMarket : Pubkey
  deposits : List SaveDeposit
  borrows : List SaveBorrow
  deriving DecidableEq

structure SavePrices where
  prices : List (Pubkey × PriceFx)

def SavePrices.get (m : SavePrices) (mint : Pubkey) : Option PriceFx := firstPrice m.prices mint

def SaveDeposit.leg (d : SaveDeposit) : DepositLeg where
  mint := d.mint
  amount := d.depositedAmount
  decimals := d.decimals
  liqThresholdBps := d.liqThresholdBps

def SaveBorrow.leg (b : SaveBorrow) : TokenLeg where
  mint := b.mint
  amount := b.borrowedAmount
  decimals := b.decimals

namespace SaveObligation

def depositLegs (o : SaveObligation) : List DepositLeg := o.deposits.map SaveDeposit.leg

def borrowLegs (o : SaveObligation) : List TokenLeg := o.borrows.map SaveBorrow.leg

end SaveObligation

def obligationHealth (o : SaveObligation) (prices : SavePrices) :
    Outcome SaveError (HealthFx × ℕ × ℕ) :=
  legsHealth prices.get .missingPrice o.depositLegs o.borrowLegs

def isLiquidatable (o : SaveObligation) (prices : SavePrices) : Outcome SaveError Bool :=
  legsLiquidatable prices.get .missingPrice o.depositLegs o.borrowLegs

lemma isLiquidatable_exact (o : SaveObligation) (prices : SavePrices)
    (hcount : o.deposits.length ≤ 10) (hreturns : isLiquidatable o prices ≠ .panic) :
    ExactVerdict prices.get SaveError.missingPrice o.depositLegs o.borrowLegs
      (obligationHealth o prices) (isLiquidatable o prices) := by
  have hlegs : o.depositLegs.length ≤ 10 := by
    rw [SaveObligation.depositLegs, List.length_map]
    exact hcount
  exact legsLiquidatable_exact hlegs hreturns

end Grokbotliq.Save
