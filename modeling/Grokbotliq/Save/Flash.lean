import Grokbotliq.Core.Instruction

/-!
# Save plans

The Save (Solend) instructions the planner emits, tagged by one leading byte, and the two
instruction lists built from them: with a flash loan around the liquidation and from inventory.

The refreshes list one account each, unlike the SDK's.  `Save/SdkLayout.lean` says what follows
for a plan, and `Save/SdkCodec.lean` how the data of its instructions read.
-/

namespace Grokbotliq.Save

open Wire

/-! ## Tags and data -/

namespace SaveIx

def refreshReserve : UInt8 := 3

def refreshObligation : UInt8 := 7

def liquidateObligationAndRedeemReserveCollateral : UInt8 := 17

end SaveIx

def flashBorrowTag : UInt8 := 19

def flashRepayTag : UInt8 := 20

def encodeRefreshReserve : List UInt8 := [SaveIx.refreshReserve]

def encodeRefreshObligation : List UInt8 := [SaveIx.refreshObligation]

def encodeLiquidateAndRedeem (liquidityAmount : UInt64) : List UInt8 :=
  SaveIx.liquidateObligationAndRedeemReserveCollateral :: leBytes 8 liquidityAmount.toNat

def encodeFlashBorrow (liquidityAmount : UInt64) : List UInt8 :=
  flashBorrowTag :: leBytes 8 liquidityAmount.toNat

def encodeFlashRepay (liquidityAmount : UInt64) (borrowInstructionIndex : UInt8) : List UInt8 :=
  flashRepayTag :: leBytes 8 liquidityAmount.toNat ++ [borrowInstructionIndex]

/-! ## Accounts -/

structure FlashBorrowAccounts where
  sourceLiquidity : Pubkey
  destinationLiquidity : Pubkey
  reserve : Pubkey
  lendingMarket : Pubkey
  lendingMarketAuthority : Pubkey

def FlashBorrowAccounts.metas (a : FlashBorrowAccounts) : List AccountMeta :=
  [ .new a.sourceLiquidity false,
    .new a.destinationLiquidity false,
    .new a.reserve false,
    .newReadonly a.lendingMarket false,
    .newReadonly a.lendingMarketAuthority false,
    .newReadonly Programs.sysvarInstructions false,
    .newReadonly Programs.token false ]

def FlashBorrowAccounts.buildIx (a : FlashBorrowAccounts) (liquidityAmount : UInt64) :
    Instruction :=
  ⟨Programs.save, a.metas, encodeFlashBorrow liquidityAmount⟩

structure FlashRepayAccounts where
  sourceLiquidity : Pubkey
  destinationLiquidity : Pubkey
  feeReceiver : Pubkey
  hostFeeReceiver : Pubkey
  reserve : Pubkey
  lendingMarket : Pubkey
  userTransferAuthority : Pubkey

def FlashRepayAccounts.metas (a : FlashRepayAccounts) : List AccountMeta :=
  [ .new a.sourceLiquidity false,
    .new a.destinationLiquidity false,
    .new a.feeReceiver false,
    .new a.hostFeeReceiver false,
    .new a.reserve false,
    .newReadonly a.lendingMarket false,
    .newReadonly a.userTransferAuthority true,
    .newReadonly Programs.sysvarInstructions false,
    .newReadonly Programs.token false ]

def FlashRepayAccounts.buildIx (a : FlashRepayAccounts) (liquidityAmount : UInt64)
    (borrowIxIndex : UInt8) : Instruction :=
  ⟨Programs.save, a.metas, encodeFlashRepay liquidityAmount borrowIxIndex⟩

structure SaveLiquidateAccounts where
  sourceLiquidity : Pubkey
  destinationCollateral : Pubkey
  destinationLiquidity : Pubkey
  repayReserve : Pubkey
  repayReserveLiquiditySupply : Pubkey
  withdrawReserve : Pubkey
  withdrawReserveCollateralMint : Pubkey
  withdrawReserveCollateralSupply : Pubkey
  withdrawReserveLiquiditySupply : Pubkey
  withdrawReserveFeeReceiver : Pubkey
  obligation : Pubkey
  lendingMarket : Pubkey
  lendingMarketAuthority : Pubkey
  userTransferAuthority : Pubkey

def SaveLiquidateAccounts.metas (a : SaveLiquidateAccounts) : List AccountMeta :=
  [ .new a.sourceLiquidity false,
    .new a.destinationCollateral false,
    .new a.destinationLiquidity false,
    .new a.repayReserve false,
    .new a.repayReserveLiquiditySupply false,
    .new a.withdrawReserve false,
    .new a.withdrawReserveCollateralMint false,
    .new a.withdrawReserveCollateralSupply false,
    .new a.withdrawReserveLiquiditySupply false,
    .new a.withdrawReserveFeeReceiver false,
    .new a.obligation false,
    .newReadonly a.lendingMarket false,
    .newReadonly a.lendingMarketAuthority false,
    .newReadonly a.userTransferAuthority true,
    .newReadonly Programs.token false ]

def SaveLiquidateAccounts.buildIx (a : SaveLiquidateAccounts) (liquidityAmount : UInt64) :
    Instruction :=
  ⟨Programs.save, a.metas, encodeLiquidateAndRedeem liquidityAmount⟩

structure SaveFlashPlanAccounts where
  flashBorrow : FlashBorrowAccounts
  liquidate : SaveLiquidateAccounts
  flashRepay : FlashRepayAccounts
  refreshReserves : List Pubkey
  obligation : Pubkey

/-! ## Plans -/

def refreshReserveIx (reserve : Pubkey) : LabeledIx where
  label := "RefreshReserve"
  ix := ⟨Programs.save, [.new reserve false], encodeRefreshReserve⟩

def refreshObligationIx (obligation : Pubkey) : LabeledIx where
  label := "RefreshObligation"
  ix := ⟨Programs.save, [.new obligation false], encodeRefreshObligation⟩

def liquidateIx (a : SaveLiquidateAccounts) (liquidityAmount : UInt64) : LabeledIx where
  label := "LiquidateObligationAndRedeemReserveCollateral"
  ix := a.buildIx liquidityAmount

/-- What both plans begin with: compute budget, then the refreshes. -/
def preludeIxs (obligation : Pubkey) (reserves : List Pubkey) (cuLimit : UInt32)
    (cuPrice : UInt64) : List LabeledIx :=
  computeBudgetIxs cuLimit cuPrice ++ reserves.map refreshReserveIx ++
    [refreshObligationIx obligation]

structure SaveFlashAtomicPlan where
  labeled : Plan
  /-- Position of the borrow, which the repay carries. -/
  flashBorrowIndex : UInt8
  liquidityAmount : UInt64

/-- CU → refresh* → flash_borrow → liquidate → [swaps] → flash_repay. -/
def buildFlashAtomicPlan (accounts : SaveFlashPlanAccounts) (liquidityAmount : UInt64)
    (swapIxs : List LabeledIx) (cuLimit : UInt32) (cuPrice : UInt64) : SaveFlashAtomicPlan :=
  let prelude := preludeIxs accounts.obligation accounts.refreshReserves cuLimit cuPrice
  let flashBorrowIndex := UInt8.ofNat prelude.length
  { labeled := prelude ++
      [⟨"FlashBorrowReserveLiquidity", accounts.flashBorrow.buildIx liquidityAmount⟩,
        liquidateIx accounts.liquidate liquidityAmount] ++ swapIxs ++
      [⟨"FlashRepayReserveLiquidity",
        accounts.flashRepay.buildIx liquidityAmount flashBorrowIndex⟩]
    flashBorrowIndex := flashBorrowIndex
    liquidityAmount := liquidityAmount }

end Grokbotliq.Save
