import Grokbotliq.Core.Funding
import Grokbotliq.Kamino.Decode
import Grokbotliq.Kamino.TxBuilder
import Grokbotliq.Project0.TxBuilder
import Grokbotliq.Save.Flash

/-!
# From strategy to instruction list

The account set a plan is built from, in its two origins (a fixture derived from the
borrower's key, and a decoded klend obligation), and the dispatch on protocol and strategy
that turns it into instructions.

Little is proved here beyond the number of token accounts.  What the lists contain is said,
property by property, by the modules that start with `Plan`: their order, what they refresh, what
they create, who signs, and how they read under the IDL.
-/

namespace Grokbotliq.Execution

open Kamino MachineInt

/-- Structured account set for building liquidation transactions. -/
structure PlanAccountSet where
  liquidator : Pubkey
  obligation : Pubkey
  lendingMarket : Pubkey
  lendingMarketAuthority : Pubkey
  repayReserve : Pubkey
  withdrawReserve : Pubkey
  userLiquidity : Pubkey
  userCollateral : Pubkey
  repayLiquidityMint : Option Pubkey
  repayLiquiditySupply : Option Pubkey
  repayFeeReceiver : Option Pubkey
  withdrawLiquidityMint : Option Pubkey
  withdrawCollateralMint : Option Pubkey
  withdrawCollateralSupply : Option Pubkey
  withdrawLiquiditySupply : Option Pubkey
  withdrawFeeReceiver : Option Pubkey
  repayTokenProgram : Option Pubkey
  withdrawTokenProgram : Option Pubkey
  /-- Extra deposit reserves to refresh (from live obligation deposits). -/
  depositReservesExtra : List Pubkey
  borrowReservesExtra : List Pubkey
  /-- Whether the core keys came from a live klend decode. -/
  fromLiveDecode : Bool
  refreshReserveMetas : List RefreshReserveAccounts
  userDestinationLiquidity : Option Pubkey
  collateralObligationFarmUserState : Option Pubkey
  collateralReserveFarmState : Option Pubkey
  debtObligationFarmUserState : Option Pubkey
  debtReserveFarmState : Option Pubkey
  referrer : Option Pubkey
  /-- Aligned with `borrowReservesExtra` when a referrer is set. -/
  referrerTokenStates : List Pubkey
  /-- When present, only the token accounts listed are created. -/
  missingAtaFilter : Option (List Pubkey)

namespace PlanAccountSet

/-- Fixture-shaped accounts derived from a borrower's key; the arithmetic wraps. -/
def fromSeed (seed : Pubkey) : PlanAccountSet :=
  let tag := seed.firstByte
  let base := seed.tailIndex
  let pk := fun i => Pubkey.test (tag + 20) (base + i)
  { liquidator := pk 1
    obligation := seed
    lendingMarket := pk 3
    lendingMarketAuthority := pk 4
    repayReserve := pk 5
    withdrawReserve := pk 6
    userLiquidity := pk 7
    userCollateral := pk 8
    repayLiquidityMint := none
    repayLiquiditySupply := none
    repayFeeReceiver := none
    withdrawLiquidityMint := none
    withdrawCollateralMint := none
    withdrawCollateralSupply := none
    withdrawLiquiditySupply := none
    withdrawFeeReceiver := none
    repayTokenProgram := none
    withdrawTokenProgram := none
    depositReservesExtra := []
    borrowReservesExtra := []
    fromLiveDecode := false
    refreshReserveMetas := []
    userDestinationLiquidity := none
    collateralObligationFarmUserState := none
    collateralReserveFarmState := none
    debtObligationFarmUserState := none
    debtReserveFarmState := none
    referrer := none
    referrerTokenStates := []
    missingAtaFilter := none }

/-- The reserve's token program, or the classic one where the account has none. -/
def tokenProgramOf (r : LiveReserveVaults) : Pubkey :=
  if r.tokenProgram.bytes = List.replicate 32 0 then Programs.token else r.tokenProgram

def nonzero (k : Pubkey) : Option Pubkey :=
  if k.bytes = List.replicate 32 0 then none else some k

def refreshAccounts (r : LiveReserveVaults) : RefreshReserveAccounts where
  reserve := r.address
  lendingMarket := r.lendingMarket
  pythOracle := r.pythOracle
  switchboardPrice := r.switchboardPrice
  switchboardTwap := r.switchboardTwap
  scopePrices := r.scopePrices

/-- Withdraw reserve, then repay reserve where it is another one. -/
def liveRefreshMetas (repay withdraw : LiveReserveVaults) : List RefreshReserveAccounts :=
  if repay.address = withdraw.address then [refreshAccounts withdraw]
  else [refreshAccounts withdraw, refreshAccounts repay]

/-- Built from live klend positions and the vault metas of the two reserves. -/
def fromKaminoLive (h : PdaHash) (obligation liquidator : Pubkey)
    (positions : LiveObligationPositions) (repay withdraw : LiveReserveVaults)
    (marketAuthority : Pubkey) : PlanAccountSet :=
  let depositReservesExtra := positions.deposits.map LiveDepositPosition.reserve
  let borrowReservesExtra := positions.borrows.map LiveBorrowPosition.reserve
  let repayTp := tokenProgramOf repay
  let withdrawTp := tokenProgramOf withdraw
  let referrer := nonzero positions.header.referrer
  { liquidator := liquidator
    obligation := obligation
    lendingMarket := positions.header.lendingMarket
    lendingMarketAuthority := marketAuthority
    repayReserve := repay.address
    withdrawReserve := withdraw.address
    userLiquidity := h.getAssociatedTokenAddress liquidator repay.liquidityMint repayTp
    userCollateral := h.getAssociatedTokenAddress liquidator withdraw.collateralMint withdrawTp
    repayLiquidityMint := some repay.liquidityMint
    repayLiquiditySupply := some repay.liquiditySupply
    repayFeeReceiver := some repay.feeVault
    withdrawLiquidityMint := some withdraw.liquidityMint
    withdrawCollateralMint := some withdraw.collateralMint
    withdrawCollateralSupply := some withdraw.collateralSupply
    withdrawLiquiditySupply := some withdraw.liquiditySupply
    withdrawFeeReceiver := some withdraw.feeVault
    repayTokenProgram := some repayTp
    withdrawTokenProgram := some withdrawTp
    depositReservesExtra := depositReservesExtra
    borrowReservesExtra := borrowReservesExtra
    fromLiveDecode := true
    refreshReserveMetas := liveRefreshMetas repay withdraw
    userDestinationLiquidity :=
      some (h.getAssociatedTokenAddress liquidator withdraw.liquidityMint withdrawTp)
    collateralObligationFarmUserState := none
    collateralReserveFarmState := none
    debtObligationFarmUserState := none
    debtReserveFarmState := none
    referrer := referrer
    referrerTokenStates :=
      match referrer with
      | some k => borrowReservesExtra.map (h.klendReferrerTokenState k)
      | none => []
    missingAtaFilter := none }

/-- The two assignments of the shadow binary after `fromKaminoLive`. -/
def withOverlay (a : PlanAccountSet) (overlay : List RefreshReserveAccounts)
    (filter : Option (List Pubkey)) : PlanAccountSet :=
  { a with refreshReserveMetas := overlay, missingAtaFilter := filter }

/-! ## Token accounts -/

/-- The loop of `liquidator_ensure_atas`: seen addresses and those the filter leaves out are
skipped. -/
def ensureAtasFrom (h : PdaHash) (filter : Option (List Pubkey)) :
    List Pubkey → List EnsureAta → List EnsureAta
  | _, [] => []
  | seen, spec :: specs =>
    let ata := spec.ataAddress h
    if ata ∈ seen then ensureAtasFrom h filter seen specs
    else if filter.any (fun keys => decide (ata ∉ keys)) then ensureAtasFrom h filter seen specs
    else spec :: ensureAtasFrom h filter (seen ++ [ata]) specs

lemma length_ensureAtasFrom_le (h : PdaHash) (filter : Option (List Pubkey)) :
    ∀ (specs : List EnsureAta) (seen : List Pubkey),
      (ensureAtasFrom h filter seen specs).length ≤ specs.length
  | [], _ => Nat.le_refl _
  | spec :: specs, seen => by
      rw [ensureAtasFrom, List.length_cons]
      split_ifs with hseen hfilter
      · exact Nat.le_succ_of_le (length_ensureAtasFrom_le h filter specs seen)
      · exact Nat.le_succ_of_le (length_ensureAtasFrom_le h filter specs seen)
      · exact Nat.succ_le_succ (length_ensureAtasFrom_le h filter specs _)

variable (a : PlanAccountSet)

def repayTp : Pubkey := a.repayTokenProgram.getD Programs.token

def withdrawTp : Pubkey := a.withdrawTokenProgram.getD Programs.token

/-- Placeholder keys derived from a reserve's first byte. -/
def synth (reserve : Pubkey) (tag : UInt64) : Pubkey := Pubkey.test reserve.firstByte tag

def liquidatorEnsureAtas (h : PdaHash) : List EnsureAta :=
  let spec := EnsureAta.mk a.liquidator a.liquidator
  ensureAtasFrom h a.missingAtaFilter []
    [ spec (a.repayLiquidityMint.getD (synth a.repayReserve 100)) a.repayTp,
      spec (a.withdrawCollateralMint.getD (synth a.withdrawReserve 103)) a.withdrawTp,
      spec (a.withdrawLiquidityMint.getD (synth a.withdrawReserve 102)) a.withdrawTp ]

/-- At most one token account each for the repay, collateral and withdraw mints. -/
lemma length_liquidatorEnsureAtas_le (h : PdaHash) : (a.liquidatorEnsureAtas h).length ≤ 3 :=
  length_ensureAtasFrom_le h _ _ _

/-! ## Accounts of the protocols -/

def kaminoLiquidateAccounts : LiquidateV2Accounts where
  liquidator := a.liquidator
  obligation := a.obligation
  lendingMarket := a.lendingMarket
  lendingMarketAuthority := a.lendingMarketAuthority
  repayReserve := a.repayReserve
  repayReserveLiquidityMint := a.repayLiquidityMint.getD (synth a.repayReserve 100)
  repayReserveLiquiditySupply := a.repayLiquiditySupply.getD (synth a.repayReserve 101)
  withdrawReserve := a.withdrawReserve
  withdrawReserveLiquidityMint := a.withdrawLiquidityMint.getD (synth a.withdrawReserve 102)
  withdrawReserveCollateralMint := a.withdrawCollateralMint.getD (synth a.withdrawReserve 103)
  withdrawReserveCollateralSupply :=
    a.withdrawCollateralSupply.getD (synth a.withdrawReserve 104)
  withdrawReserveLiquiditySupply := a.withdrawLiquiditySupply.getD (synth a.withdrawReserve 105)
  withdrawReserveLiquidityFeeReceiver :=
    a.withdrawFeeReceiver.getD (synth a.withdrawReserve 106)
  userSourceLiquidity := a.userLiquidity
  userDestinationCollateral := a.userCollateral
  userDestinationLiquidity := a.userDestinationLiquidity.getD a.userLiquidity
  collateralTokenProgram := a.withdrawTp
  repayLiquidityTokenProgram := a.repayTp
  withdrawLiquidityTokenProgram := a.withdrawTp
  instructionSysvarAccount := Programs.sysvarInstructions
  collateralObligationFarmUserState := a.collateralObligationFarmUserState
  collateralReserveFarmState := a.collateralReserveFarmState
  debtObligationFarmUserState := a.debtObligationFarmUserState
  debtReserveFarmState := a.debtReserveFarmState
  farmsProgram := Programs.kfarms
  depositReserves := a.depositReservesExtra

def kaminoFlashPair : Kamino.FlashBorrowAccounts × Kamino.FlashRepayAccounts :=
  let mint := a.repayLiquidityMint.getD (synth a.repayReserve 100)
  let supply := a.repayLiquiditySupply.getD (synth a.repayReserve 101)
  let fee := (a.repayFeeReceiver.or a.withdrawFeeReceiver).getD (synth a.withdrawReserve 106)
  ( { userTransferAuthority := a.liquidator
      lendingMarketAuthority := a.lendingMarketAuthority
      lendingMarket := a.lendingMarket
      reserve := a.repayReserve
      reserveLiquidityMint := mint
      reserveSourceLiquidity := supply
      userDestinationLiquidity := a.userLiquidity
      reserveLiquidityFeeReceiver := fee
      referrerTokenState := none
      referrerAccount := none },
    { userTransferAuthority := a.liquidator
      lendingMarketAuthority := a.lendingMarketAuthority
      lendingMarket := a.lendingMarket
      reserve := a.repayReserve
      reserveLiquidityMint := mint
      reserveDestinationLiquidity := supply
      userSourceLiquidity := a.userLiquidity
      reserveLiquidityFeeReceiver := fee
      referrerTokenState := none
      referrerAccount := none } )

def saveFlashAccounts : Save.SaveFlashPlanAccounts where
  flashBorrow :=
    { sourceLiquidity := synth a.repayReserve 101
      destinationLiquidity := a.userLiquidity
      reserve := a.repayReserve
      lendingMarket := a.lendingMarket
      lendingMarketAuthority := a.lendingMarketAuthority }
  liquidate :=
    { sourceLiquidity := a.userLiquidity
      destinationCollateral := a.userCollateral
      destinationLiquidity := a.userLiquidity
      repayReserve := a.repayReserve
      repayReserveLiquiditySupply := synth a.repayReserve 101
      withdrawReserve := a.withdrawReserve
      withdrawReserveCollateralMint := synth a.withdrawReserve 103
      withdrawReserveCollateralSupply := synth a.withdrawReserve 104
      withdrawReserveLiquiditySupply := synth a.withdrawReserve 105
      withdrawReserveFeeReceiver := synth a.withdrawReserve 106
      obligation := a.obligation
      lendingMarket := a.lendingMarket
      lendingMarketAuthority := a.lendingMarketAuthority
      userTransferAuthority := a.liquidator }
  flashRepay :=
    { sourceLiquidity := a.userLiquidity
      destinationLiquidity := synth a.repayReserve 101
      feeReceiver := synth a.withdrawReserve 106
      hostFeeReceiver := synth a.withdrawReserve 107
      reserve := a.repayReserve
      lendingMarket := a.lendingMarket
      userTransferAuthority := a.liquidator }
  refreshReserves := [a.repayReserve, a.withdrawReserve]
  obligation := a.obligation

/-- The accounts of a receivership, and its two amounts. -/
def receivershipParams (liquidityAmount : UInt64) : Project0.ReceivershipBuildParams where
  start :=
    { marginfiAccount := a.obligation
      liquidationRecord := synth a.obligation 200
      group := a.lendingMarket
      liquidationReceiver := a.liquidator
      instructionSysvar := Programs.sysvarInstructions
      remainingWritable := [a.repayReserve] }
  withdraw :=
    { group := a.lendingMarket
      marginfiAccount := a.liquidator
      authority := a.liquidator
      bank := a.withdrawReserve
      vault := synth a.withdrawReserve 201
      destination := a.userLiquidity
      bankLiquidityVaultAuthority := a.lendingMarketAuthority
      tokenProgram := Programs.token }
  repay :=
    { group := a.lendingMarket
      marginfiAccount := a.liquidator
      authority := a.liquidator
      bank := a.repayReserve
      signerTokenAccount := a.userLiquidity
      vault := synth a.repayReserve 202
      tokenProgram := Programs.token }
  stop :=
    { marginfiAccount := a.obligation
      liquidationRecord := synth a.obligation 200
      group := a.lendingMarket
      liquidationReceiver := a.liquidator
      feeState := Pubkey.test 80 1
      globalFeeWallet := Pubkey.test 80 2
      systemProgram := Programs.system
      feePayer := none }
  withdrawAmount := liquidityAmount
  repayAmount := satMulU64 liquidityAmount 9 / 10
  cuLimit := 500000
  cuPrice := 1000

/-! ## The reserves a klend plan refreshes -/

/-- `key` is appended where it is missing. -/
def pushMissing (keys : List Pubkey) (key : Pubkey) : List Pubkey :=
  if key ∈ keys then keys else keys ++ [key]

/-- A fixture set without reserves of its own falls back on `fallback`. -/
def orFallback (keys : List Pubkey) (fallback : Pubkey) : List Pubkey :=
  if keys = [] then [fallback] else keys

/-- Deposit and borrow reserves of the flash plan: exact after a live decode, padded with the
two reserves in a fixture set. -/
def flashReserves : List Pubkey × List Pubkey :=
  if a.fromLiveDecode then (a.depositReservesExtra, a.borrowReservesExtra)
  else
    (pushMissing (orFallback a.depositReservesExtra a.withdrawReserve) a.withdrawReserve,
      pushMissing (orFallback a.borrowReservesExtra a.repayReserve) a.repayReserve)

/-- Deposit and borrow reserves of the inventory plan, which is not padded. -/
def inventoryReserves : List Pubkey × List Pubkey :=
  if a.fromLiveDecode then (a.depositReservesExtra, a.borrowReservesExtra)
  else
    (orFallback a.depositReservesExtra a.withdrawReserve,
      orFallback a.borrowReservesExtra a.repayReserve)

/-- The parameters both klend plans share. -/
def kaminoParams (h : PdaHash) (reserves : List Pubkey × List Pubkey) (liquidityAmount : UInt64)
    (flash : Option (Kamino.FlashBorrowAccounts × Kamino.FlashRepayAccounts)) :
    KaminoTxBuildParams where
  obligation := a.obligation
  depositReserves := reserves.1
  borrowReserves := reserves.2
  liquidate := a.kaminoLiquidateAccounts
  liquidityAmount := liquidityAmount
  minAcceptableReceived := 0
  maxAllowedLtvOverridePercent := 0
  cuLimit := 400000
  cuPrice := 1000
  flash := flash
  refreshReserves := a.refreshReserveMetas
  referrerTokenStates := a.referrerTokenStates
  ensureAtas := a.liquidatorEnsureAtas h

end PlanAccountSet

/-! ## The planner -/

/-- Swap instructions of a Jupiter answer. -/
structure JupiterQuoteBlob where
  instructions : List LabeledIx
  incomplete : Bool

namespace JupiterQuoteBlob

/-- No quote: nothing to attach. -/
def default : JupiterQuoteBlob := ⟨[], true⟩

/-- One swap, which `signer` signs. -/
def oneSwap (signer : Pubkey) : JupiterQuoteBlob where
  instructions := [⟨"JupiterSwap", ⟨Pubkey.test 11 1,
    [⟨signer, true, true⟩, ⟨Pubkey.test 11 2, false, true⟩], [7]⟩⟩]
  incomplete := false

/-- The swaps to attach, and whether they are incomplete. -/
def attachOrOmit (blob : JupiterQuoteBlob) : List LabeledIx × Bool :=
  (blob.instructions, blob.incomplete)

end JupiterQuoteBlob

structure PlannedIxs where
  labeled : Plan
  swapIncomplete : Bool
  usedFlashBuilder : Bool

/-- `build_strategy_ixs`. -/
def buildStrategyIxs (h : PdaHash) (protocol : Protocol) (strategy : FundingStrategy)
    (accounts : PlanAccountSet) (liquidityAmount : UInt64) (swapBlob : JupiterQuoteBlob) :
    PlannedIxs :=
  let (swaps, swapIncomplete) := swapBlob.attachOrOmit
  match protocol, strategy with
  | .kamino, .kaminoFlashBorrow =>
    let params := accounts.kaminoParams h accounts.flashReserves liquidityAmount
      (some accounts.kaminoFlashPair)
    ⟨(buildFlashTx h params swaps).getD [], swapIncomplete, true⟩
  | .kamino, .inventory =>
    let params := accounts.kaminoParams h accounts.inventoryReserves liquidityAmount none
    ⟨buildInventoryTx h params swaps, swapIncomplete, false⟩
  | .save, .saveFlashLoan =>
    let plan := Save.buildFlashAtomicPlan accounts.saveFlashAccounts liquidityAmount swaps
      400000 1000
    ⟨plan.labeled, swapIncomplete, true⟩
  | .project0, .project0Receivership =>
    ⟨Project0.buildReceivershipTx (accounts.receivershipParams liquidityAmount) swaps,
      swapIncomplete, false⟩
  | _, _ =>
    ⟨[⟨"ComputeBudget:SetComputeUnitLimit", computeUnitLimit 200000⟩], swapIncomplete, false⟩

/-- `strategy_ix_labels`: what the log says a plan consists of. -/
def strategyIxLabels : FundingStrategy → Protocol → List String
  | .saveFlashLoan, _ =>
    ["ComputeBudget", "RefreshReserve*", "RefreshObligation", "FlashBorrowReserveLiquidity",
      "LiquidateObligationAndRedeemReserveCollateral", "SwapOptional",
      "FlashRepayReserveLiquidity"]
  | .kaminoFlashBorrow, _ =>
    ["ComputeBudget", "refresh_reserve*", "refresh_obligation",
      "CreateIdempotentAssociatedTokenAccount*", "flash_borrow_reserve_liquidity",
      "liquidate_v2", "swap_optional", "flash_repay_reserve_liquidity"]
  | .project0Receivership, _ =>
    ["ComputeBudget", "start_liquidation", "withdraw", "swap_optional", "repay",
      "end_liquidation"]
  | .inventory, .kamino =>
    ["ComputeBudget", "refresh_reserve*", "refresh_obligation",
      "CreateIdempotentAssociatedTokenAccount*", "liquidate_v2", "swap_optional"]
  | .inventory, .save =>
    ["ComputeBudget", "RefreshReserve*", "RefreshObligation", "Liquidate", "SwapOptional"]
  | .inventory, .project0 => ["ComputeBudget", "lending_account_liquidate"]

end Grokbotliq.Execution
